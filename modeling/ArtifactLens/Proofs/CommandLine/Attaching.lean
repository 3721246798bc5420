import ArtifactLens.CommandLine.Options

/-!
# Attached arguments

An `--extra-args` takes the argument after it along, another `--extra-args` too, and the last
argument has nothing to take. So a bare `--extra-args` is left of arguments at the end at most
(`Options.not_mem_dropLast_attach`), and arguments of which none is left there may be cut off: what
follows is attached as it is by itself (`Options.attach_append`).

**A value may therefore stand behind the option or be attached to it**, wherever the option is not
taken for a value itself, and what is attached stays as it is (`Options.attach_detached`).
-/

namespace ArtifactLens

namespace Options

/-! ### Arguments in front -/

theorem attach_cons {token : String} (other : token ≠ extraArgsName) (rest : List String) :
    attach (token :: rest) = token :: attach rest := by
  cases rest with
  | nil => rfl
  | cons value rest => rw [attach, if_neg other]

theorem attach_pair (value : String) (rest : List String) :
    attach (extraArgsName :: value :: rest) = (extraArgsName ++ "=" ++ value) :: attach rest := by
  rw [attach, if_pos rfl]

/-- An option with its value attached is not the bare option. -/
theorem attached_ne (value : String) : extraArgsName ++ "=" ++ value ≠ extraArgsName := by
  intro same
  have length := congrArg String.length same
  rw [String.length_append, String.length_append] at length
  have mark : "=".length = 1 := by decide
  omega

/-! ### Cutting arguments -/

/-- No bare option is left at the end behind an argument if none is left at all. -/
private theorem complete_of_cons {token : String} {args : List String}
    (complete : (token :: args).getLast? ≠ some extraArgsName) :
    args.getLast? ≠ some extraArgsName := by
  intro bare
  rw [List.getLast?_cons, bare] at complete
  exact complete rfl

/-- **Arguments may be cut** where no bare option is left. -/
theorem attach_append {args : List String} (complete : (attach args).getLast? ≠ some extraArgsName)
    (more : List String) : attach (args ++ more) = attach args ++ attach more := by
  induction args using attach.induct with
  | case1 => rfl
  | case2 token =>
    have other : token ≠ extraArgsName := by
      rintro rfl
      exact complete rfl
    exact attach_cons other more
  | case3 value rest ih =>
    rw [attach_pair] at complete ⊢
    rw [List.cons_append, List.cons_append, attach_pair, ih (complete_of_cons complete),
      List.cons_append]
  | case4 token value rest other ih =>
    rw [attach_cons other] at complete ⊢
    rw [List.cons_append, attach_cons other, ih (complete_of_cons complete), List.cons_append]

/-! ### What is attached -/

/-- A bare option is left at the end at most. -/
theorem not_mem_dropLast_attach (args : List String) : extraArgsName ∉ (attach args).dropLast := by
  have behind {token : String} {args : List String} (other : token ≠ extraArgsName)
      (ih : extraArgsName ∉ args.dropLast) : extraArgsName ∉ (token :: args).dropLast := by
    cases args with
    | nil => exact List.not_mem_nil
    | cons next rest => exact fun bare => (List.mem_cons.mp bare).elim other.symm ih
  induction args using attach.induct with
  | case1 => exact List.not_mem_nil
  | case2 token => exact List.not_mem_nil
  | case3 value rest ih =>
    rw [attach_pair]
    exact behind (attached_ne value) ih
  | case4 token value rest other ih =>
    rw [attach_cons other]
    exact behind other ih

/-- Where a bare option stands at the end at most, nothing is attached. -/
theorem attach_eq_self {args : List String} (last : extraArgsName ∉ args.dropLast) :
    attach args = args := by
  induction args with
  | nil => rfl
  | cons token rest ih =>
    cases rest with
    | nil => rfl
    | cons value rest =>
      rw [List.dropLast_cons_cons, List.mem_cons, not_or] at last
      rw [attach_cons (Ne.symm last.1), ih last.2]

/-- **Detached and attached values are the same.** Behind arguments of which no bare option is
left, an option and a value come to what the option with this value attached comes to, whatever the
value is, and what follows is not affected. What is attached holds a bare option at the end at most,
and is not changed by attaching it again. -/
theorem attach_detached :
    (∀ args : List String, (attach args).getLast? ≠ some extraArgsName →
      ∀ (value : String) (more : List String),
        attach (args ++ [extraArgsName, value] ++ more) =
            attach (args ++ [extraArgsName ++ "=" ++ value] ++ more) ∧
          attach (args ++ [extraArgsName ++ "=" ++ value] ++ more) =
            attach args ++ [extraArgsName ++ "=" ++ value] ++ attach more) ∧
      ∀ args : List String, attach (attach args) = attach args ∧
        extraArgsName ∉ (attach args).dropLast := by
  refine ⟨fun args complete value more => ?_, fun args => ?_⟩
  · have attached : attach (args ++ [extraArgsName ++ "=" ++ value] ++ more) =
        attach args ++ [extraArgsName ++ "=" ++ value] ++ attach more := by
      rw [List.append_assoc, attach_append complete, List.singleton_append,
        attach_cons (attached_ne value), List.append_assoc, List.singleton_append]
    refine ⟨?_, attached⟩
    rw [attached, List.append_assoc, attach_append complete]
    change attach args ++ attach (extraArgsName :: value :: more) = _
    rw [attach_pair, List.append_assoc, List.singleton_append]
  · have last := not_mem_dropLast_attach args
    exact ⟨attach_eq_self last, last⟩

/-- Behind two options, of which the second is the value of the first, an option that is a value
itself. -/
theorem attach_detached_options :
    (attach ["show", extraArgsName, extraArgsName]).getLast? ≠ some extraArgsName ∧
      attach (["show", extraArgsName, extraArgsName] ++ [extraArgsName, extraArgsName] ++ ["-O"]) =
        ["show", "--extra-args=--extra-args", "--extra-args=--extra-args", "-O"] := by
  have complete : (attach ["show", extraArgsName, extraArgsName]).getLast? ≠
      some extraArgsName := by decide
  refine ⟨complete, ?_⟩
  obtain ⟨same, attached⟩ := attach_detached.1 _ complete extraArgsName ["-O"]
  rw [same, attached]
  decide

end Options

end ArtifactLens
