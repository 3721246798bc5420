import ArtifactLens.Command.Basic
import Mathlib.Algebra.Group.Nat.Even
import Mathlib.Data.List.DropRight

/-!
# Arguments without output control

An `-o` takes the argument after it along, whatever that is, a `-c` or another `-o` too. In a run of
`-o` every other one is therefore the value of the one before it, and what comes after the run is a
value if and only if the run is odd (`outputRun`).

* **Last argument** (`dropOutputControl_concat`): an argument at the end stays unless it is output
  control itself or the value of an `-o`.
* **Positions** (`dropOutputControl_positions`): the arguments that stay are those at the positions
  that have this property, in order. So nothing is dropped a second time, and a list of arguments
  may be cut wherever no `-o` waits for its value.
-/

namespace ArtifactLens

/-- How many `-o` stand without a gap at the end of arguments. -/
def outputRun (args : List String) : Nat := (args.rtakeWhile (· = "-o")).length

/-- An argument at a position is neither output control nor the value of an `-o`. -/
def Stays (args : List String) (place : String × Nat) : Prop :=
  place.1 ∉ ["-c", "-g", "-o"] ∧ Even (outputRun (args.take place.2))

instance (args : List String) (place : String × Nat) : Decidable (Stays args place) :=
  inferInstanceAs (Decidable (_ ∧ _))

@[simp]
theorem outputRun_nil : outputRun [] = 0 := rfl

theorem outputRun_concat (args : List String) (last : String) :
    outputRun (args ++ [last]) = if last = "-o" then outputRun args + 1 else 0 := by
  rw [outputRun, List.rtakeWhile_concat]
  by_cases output : last = "-o" <;> simp [output, outputRun]

/-- Where no `-o` waits for its value, the runs of what follows are as they are by themselves. -/
theorem even_outputRun_append {args : List String} (even : Even (outputRun args))
    (more : List String) : Even (outputRun (args ++ more)) ↔ Even (outputRun more) := by
  induction more using List.reverseRecOn with
  | nil => simpa using even
  | append_singleton more last ih =>
    rw [← List.append_assoc, outputRun_concat, outputRun_concat]
    split_ifs
    · rw [Nat.even_add_one, Nat.even_add_one, ih]
    · rfl

/-- An argument in front that is no `-o` leaves the parity of the run as it is. -/
private theorem even_outputRun_cons {first : String} (other : first ≠ "-o") (args : List String) :
    Even (outputRun (first :: args)) ↔ Even (outputRun args) := by
  have alone : outputRun [first] = 0 := (outputRun_concat [] first).trans (if_neg other)
  exact even_outputRun_append (by rw [alone]; exact Even.zero) args

/-- An `-o` and its value in front leave the parity of the run as it is. -/
private theorem even_outputRun_pair (value : String) (args : List String) :
    Even (outputRun ("-o" :: value :: args)) ↔ Even (outputRun args) := by
  have pair : outputRun ["-o", value] = if value = "-o" then 2 else 0 :=
    outputRun_concat ["-o"] value
  have even : Even (outputRun ["-o", value]) := by
    rw [pair]
    split_ifs <;> decide
  exact even_outputRun_append even args

/-! ### Dropping from the front and at the end -/

theorem dropOutputControl_singleton (arg : String) :
    dropOutputControl [arg] = if arg ∈ ["-c", "-g", "-o"] then [] else [arg] := by
  rw [dropOutputControl]
  refine if_congr ?_ rfl rfl
  simp only [List.mem_cons, List.not_mem_nil, or_false]
  tauto

theorem dropOutputControl_pair (value : String) (args : List String) :
    dropOutputControl ("-o" :: value :: args) = dropOutputControl args := by
  rw [dropOutputControl, if_pos rfl]

/-- An argument in front that is no `-o` is dropped or stays by itself. -/
theorem dropOutputControl_cons {first : String} (other : first ≠ "-o") (args : List String) :
    dropOutputControl (first :: args) = dropOutputControl [first] ++ dropOutputControl args := by
  cases args with
  | nil => rw [dropOutputControl, List.append_nil]
  | cons next rest =>
    rw [dropOutputControl, dropOutputControl, if_neg other]
    by_cases dropped : first = "-c" ∨ first = "-g"
    · rw [if_pos dropped, if_pos (.inr dropped), List.nil_append]
    · rw [if_neg dropped, if_neg (not_or.mpr ⟨other, dropped⟩), List.singleton_append]

/-- **What becomes of an argument at the end** is decided by the run of `-o` before it. -/
theorem dropOutputControl_concat (args : List String) (last : String) :
    dropOutputControl (args ++ [last]) =
      dropOutputControl args ++ if Even (outputRun args) then dropOutputControl [last] else [] := by
  have step {first : String} {rest : List String} (other : first ≠ "-o")
      (ih : dropOutputControl (rest ++ [last]) =
        dropOutputControl rest ++ if Even (outputRun rest) then dropOutputControl [last] else []) :
      dropOutputControl (first :: rest ++ [last]) = dropOutputControl (first :: rest) ++
        if Even (outputRun (first :: rest)) then dropOutputControl [last] else [] := by
    rw [List.cons_append, dropOutputControl_cons other, ih, dropOutputControl_cons other rest,
      List.append_assoc]
    simp only [even_outputRun_cons other]
  have start : dropOutputControl ([] ++ [last]) =
      dropOutputControl [] ++ if Even (outputRun []) then dropOutputControl [last] else [] := by
    simp [dropOutputControl]
  induction args using dropOutputControl.induct with
  | case1 => exact start
  | case2 only dropped =>
    obtain rfl | other := eq_or_ne only "-o"
    -- A lone `-o` takes the argument at the end along.
    · have odd : ¬Even (outputRun ["-o"]) := by decide
      rw [if_neg odd, List.append_nil]
      exact dropOutputControl_pair last []
    · exact step other start
  | case3 only kept => exact step (fun output => kept (.inl output)) start
  | case4 value rest ih =>
    simp only [even_outputRun_pair]
    rw [List.cons_append, List.cons_append, dropOutputControl_pair, dropOutputControl_pair, ih]
  | case5 first next rest output dropped ih => exact step output ih
  | case6 first next rest output kept ih => exact step output ih

/-- Nothing that controls the output is left of arguments. -/
theorem not_mem_dropOutputControl {flag : String} (h : flag ∈ ["-c", "-g", "-o"])
    (args : List String) : flag ∉ dropOutputControl args := by
  induction args using List.reverseRecOn with
  | nil => exact List.not_mem_nil
  | append_singleton args last ih =>
    rw [dropOutputControl_concat, dropOutputControl_singleton, List.mem_append, not_or]
    refine ⟨ih, ?_⟩
    split_ifs with even control
    · exact List.not_mem_nil
    · rw [List.mem_singleton]
      rintro rfl
      exact control h
    · exact List.not_mem_nil

/-- Arguments without output control all stay. -/
theorem dropOutputControl_eq_self {args : List String}
    (free : ∀ flag ∈ ["-c", "-g", "-o"], flag ∉ args) : dropOutputControl args = args := by
  induction args with
  | nil => rw [dropOutputControl]
  | cons first rest ih =>
    have kept : first ∉ ["-c", "-g", "-o"] := fun control => free first control List.mem_cons_self
    have other : first ≠ "-o" := fun output => kept (by simp [output])
    have ih := ih fun flag control hmem => free flag control (List.mem_cons_of_mem first hmem)
    rw [dropOutputControl_cons other, dropOutputControl_singleton, if_neg kept, ih,
      List.singleton_append]

/-- Arguments may be cut where no `-o` waits for its value. -/
theorem dropOutputControl_append {args : List String} (even : Even (outputRun args))
    (more : List String) :
    dropOutputControl (args ++ more) = dropOutputControl args ++ dropOutputControl more := by
  induction more using List.reverseRecOn with
  | nil => rw [dropOutputControl, List.append_nil, List.append_nil]
  | append_singleton more last ih =>
    rw [← List.append_assoc, dropOutputControl_concat, dropOutputControl_concat more, ih,
      List.append_assoc]
    simp only [even_outputRun_append even]

/-! ### Positions -/

theorem stays_concat_of_mem {args : List String} {place : String × Nat}
    (h : place ∈ args.zipIdx) (last : String) :
    Stays (args ++ [last]) place ↔ Stays args place := by
  have within : place.2 ≤ args.length := (List.snd_lt_of_mem_zipIdx h).le
  rw [Stays, Stays, List.take_append_of_le_length within]

theorem stays_concat_self (args : List String) (last : String) :
    Stays (args ++ [last]) (last, args.length) ↔
      last ∉ ["-c", "-g", "-o"] ∧ Even (outputRun args) := by
  rw [Stays, List.take_left]

/-- The arguments that stay are those at the positions where they stay. -/
theorem dropOutputControl_eq_filter (args : List String) :
    dropOutputControl args = (args.zipIdx.filter (Stays args ·)).map Prod.fst := by
  induction args using List.reverseRecOn with
  | nil => rw [dropOutputControl]; rfl
  | append_singleton args last ih =>
    -- The positions before the last one look at the same arguments as they did.
    have before :
        args.zipIdx.filter (Stays (args ++ [last]) ·) = args.zipIdx.filter (Stays args ·) :=
      List.filter_congr fun place hplace => decide_eq_decide.mpr (stays_concat_of_mem hplace last)
    have own : ([(last, args.length)].filter (Stays (args ++ [last]) ·)).map Prod.fst =
        if Even (outputRun args) then dropOutputControl [last] else [] := by
      rw [dropOutputControl_singleton, List.filter_singleton]
      simp only [stays_concat_self]
      by_cases even : Even (outputRun args) <;>
        by_cases control : last ∈ ["-c", "-g", "-o"] <;> simp [even, control]
    rw [dropOutputControl_concat, ih, List.zipIdx_append, List.filter_append, before,
      List.map_append, Nat.zero_add, List.zipIdx_singleton, own]

theorem dropOutputControl_sublist (args : List String) :
    (dropOutputControl args).Sublist args := by
  have places : (args.zipIdx.filter (Stays args ·)).Sublist args.zipIdx := List.filter_sublist
  rw [dropOutputControl_eq_filter]
  simpa only [List.zipIdx_map_fst] using places.map Prod.fst

/-- What is kept of arguments is one of them. -/
theorem mem_of_mem_dropOutputControl {arg : String} {args : List String}
    (h : arg ∈ dropOutputControl args) : arg ∈ args := (dropOutputControl_sublist args).subset h

/-- **The arguments that stay** are exactly those at a position whose argument is none of `-c`, `-g`
and `-o` and before which the run of `-o` is even, in order. So none of the three is left, dropping
again changes nothing, and arguments may be cut behind an even run. -/
theorem dropOutputControl_positions (args : List String) :
    dropOutputControl args = (args.zipIdx.filter (Stays args ·)).map Prod.fst ∧
    (∀ flag ∈ ["-c", "-g", "-o"], flag ∉ dropOutputControl args) ∧
    dropOutputControl (dropOutputControl args) = dropOutputControl args ∧
    ∀ more, Even (outputRun args) →
      dropOutputControl (args ++ more) = dropOutputControl args ++ dropOutputControl more := by
  have free : ∀ flag ∈ ["-c", "-g", "-o"], flag ∉ dropOutputControl args :=
    fun flag control => not_mem_dropOutputControl control args
  refine ⟨dropOutputControl_eq_filter args, free, dropOutputControl_eq_self free, ?_⟩
  intro more even
  exact dropOutputControl_append even more

/-- Three `-o` after another: the second is the value of the first, and the third waits. Behind the
first two the arguments may be cut. -/
theorem dropOutputControl_positions_run :
    Even (outputRun ["a", "-o", "-o"]) ∧
      dropOutputControl (["a", "-o", "-o"] ++ ["-o", "b", "c"]) =
        dropOutputControl ["a", "-o", "-o"] ++ dropOutputControl ["-o", "b", "c"] := by
  have even : Even (outputRun ["a", "-o", "-o"]) := by decide
  exact ⟨even, (dropOutputControl_positions ["a", "-o", "-o"]).2.2.2 ["-o", "b", "c"] even⟩

end ArtifactLens
