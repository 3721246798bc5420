import ArtifactLens.Json
import Mathlib.Data.List.Infix
import Mathlib.Data.List.TakeWhile
import Mathlib.Tactic.SplitIfs

/-!
# What stops the reader of JSON

The reader goes through a text from front to back: what is left after a piece is a suffix of the
text, and an integer that is refused for its length is a run of digits in the text
(`Json.Within`). This holds of strings, numbers and names one by one, and of values, items and
fields together, by induction on the measure that bounds the reader. So a text without a run of
digits that is longer than the limit is read or found malformed, and never refused on grounds of
its integers (`Json.run_of_parse`).

Conversely a text that is nothing but a run of too many digits is refused on these grounds
(`Json.parse_run`).
-/

namespace ArtifactLens

namespace Json

variable {α β : Type} {text rest : List Char}

/-- The text holds a run of decimal digits of a length. -/
def HasRun (text : List Char) (length : Nat) : Prop :=
  ∃ run, run <:+: text ∧ run.length = length ∧ ∀ c ∈ run, c.isDigit = true

/-- A piece was read within a text: what is left is a suffix, and a refused integer is a run of
more digits than are accepted. -/
def Within (text : List Char) : Read α → Prop
  | .ok (_, rest) => rest <:+ text
  | .error (.longInteger digits) => integerLimit < digits ∧ HasRun text digits
  | .error (.problem ..) => True

theorem HasRun.of_suffix {length : Nat} (h : HasRun rest length) (suffix : rest <:+ text) :
    HasRun text length := by
  obtain ⟨run, hrun, hlength, hdigits⟩ := h
  exact ⟨run, hrun.trans suffix.isInfix, hlength, hdigits⟩

/-- What is read within a suffix is read within the text. -/
theorem Within.of_suffix {read : Read α} (h : Within rest read) (suffix : rest <:+ text) :
    Within text read := by
  match read with
  | .ok (_, _) => exact List.IsSuffix.trans h suffix
  | .error (.longInteger _) => exact ⟨h.1, h.2.of_suffix suffix⟩
  | .error (.problem ..) => trivial

/-- What stops one reader may stop another. -/
theorem Within.error {reason : Stop} (h : Within text (.error reason : Read α)) :
    Within text (.error reason : Read β) := by
  cases reason with
  | problem => trivial
  | longInteger => exact h

theorem within_stop (problem : Problem) (other : List Char) :
    Within text (stop problem other : Read α) := trivial

theorem skip_suffix (text : List Char) : skip text <:+ text := List.dropWhile_suffix _

/-- What follows a separator. -/
theorem suffix_of_skip {c : Char} {more : List Char} (h : skip rest = c :: more)
    (suffix : rest <:+ text) : more <:+ text :=
  ((List.suffix_cons c more).trans (h ▸ skip_suffix rest)).trans suffix

/-! ### Strings -/

theorem unicodeEscape_error {reason : Stop} (h : unicodeEscape text = .error reason) :
    ∃ problem left, reason = .problem problem left := by
  have refused {problem : Problem} {left : Nat}
      (h : (.error (.problem problem left) : Except Stop (Char × Nat)) = .error reason) :
      ∃ problem left, reason = .problem problem left := ⟨_, _, (Except.error.inj h).symm⟩
  unfold unicodeEscape at h
  dsimp only at h
  split at h
  · exact refused h
  · split_ifs at h
    · exact refused h
    · split at h
      · exact refused h
      · split_ifs at h

/-- A string takes what it reads off the text, and no string is refused for its length. -/
theorem within_stringFrom (opening : Nat) (done text : List Char) :
    Within text (stringFrom opening done text) := by
  induction done, text using stringFrom.induct with
  | case1 done => rw [stringFrom]; trivial
  | case2 done rest => rw [stringFrom]; exact List.suffix_cons _ _
  | case3 done => rw [stringFrom]; trivial
  | case4 done rest reason escape =>
    obtain ⟨problem, left, rfl⟩ := unicodeEscape_error escape
    rw [stringFrom, if_pos rfl, escape]
    trivial
  | case5 done rest decoded size escape ih =>
    rw [stringFrom, if_pos rfl, escape]
    exact ih.of_suffix ((List.drop_suffix size rest).trans (List.suffix_append ['\\', 'u'] rest))
  | case6 done c rest other decoded escape ih =>
    rw [stringFrom, if_neg other, escape]
    exact ih.of_suffix (List.suffix_append ['\\', c] rest)
  | case7 done c rest other escape =>
    rw [stringFrom, if_neg other, escape]
    exact within_stop _ _
  | case8 done c rest quote lone escape control =>
    rw [stringFrom.eq_5 _ _ _ _ quote lone escape, if_pos control]
    exact within_stop _ _
  | case9 done c rest quote lone escape control ih =>
    rw [stringFrom.eq_5 _ _ _ _ quote lone escape, if_neg control]
    exact ih.of_suffix (List.suffix_cons c rest)

/-! ### Numbers and names -/

theorem suffix_of_word? {word : String} (h : word? word text = some rest) : rest <:+ text := by
  rw [word?] at h
  split_ifs at h
  obtain rfl := Option.some.inj h
  exact List.drop_suffix _ _

theorem suffix_of_fraction? (h : fraction? text = some rest) : rest <:+ text := by
  unfold fraction? at h
  split at h
  · dsimp only at h
    split_ifs at h
    obtain rfl := Option.some.inj h
    exact (List.dropWhile_suffix _).trans (List.suffix_cons _ _)
  · cases h

theorem suffix_of_exponent? (h : exponent? text = some rest) : rest <:+ text := by
  unfold exponent? at h
  split at h
  · rename_i c more
    split_ifs at h with mark
    extract_lets digits after at h
    have unsigned : digits <:+ more := by
      dsimp only [digits]
      split
      · exact List.suffix_cons _ _
      · exact List.suffix_cons _ _
      · exact List.suffix_rfl
    split_ifs at h
    obtain rfl := Option.some.inj h
    exact ((List.dropWhile_suffix _).trans unsigned).trans (List.suffix_cons _ _)
  · cases h

/-- The digits that are counted stand at the start of the text. -/
theorem run_of_digits? {count : Nat} (h : digits? text = some (count, rest)) :
    ∃ run, run ++ rest = text ∧ run.length = count ∧ ∀ c ∈ run, c.isDigit = true := by
  unfold digits? at h
  split at h
  · obtain ⟨rfl, rfl⟩ := Prod.mk.inj (Option.some.inj h)
    refine ⟨['0'], rfl, rfl, fun c hc => ?_⟩
    rw [List.mem_singleton.mp hc]
    rfl
  · rename_i c more _
    split_ifs at h
    obtain ⟨rfl, rfl⟩ := Prod.mk.inj (Option.some.inj h)
    have whole := List.takeWhile_append_dropWhile (p := Char.isDigit) (l := c :: more)
    refine ⟨(c :: more).takeWhile Char.isDigit, whole, ?_,
      fun d hd => List.all_eq_true.mp List.all_takeWhile d hd⟩
    have lengths := congrArg List.length whole
    rw [List.length_append] at lengths
    omega
  · cases h

theorem within_numberAt (text : List Char) : Within text (numberAt text) := by
  unfold numberAt
  extract_lets unsigned
  have suffix : unsigned <:+ text := by
    dsimp only [unsigned]
    split
    · exact List.suffix_cons _ _
    · exact List.suffix_rfl
  clear_value unsigned
  cases hdigits : digits? unsigned with
  | none => exact within_stop _ _
  | some pair =>
    obtain ⟨count, rest⟩ := pair
    obtain ⟨run, hrun, hlength, hall⟩ := run_of_digits? hdigits
    dsimp only
    split_ifs with long
    · exact ⟨long.2, run, ((List.prefix_append run rest).isInfix.trans
        (hrun ▸ List.infix_rfl)).trans suffix.isInfix, hlength, hall⟩
    · have fraction : (fraction? rest).getD rest <:+ rest := by
        cases h : fraction? rest with
        | none => exact List.suffix_rfl
        | some after => exact suffix_of_fraction? h
      have exponent : (exponent? ((fraction? rest).getD rest)).getD ((fraction? rest).getD rest) <:+
          (fraction? rest).getD rest := by
        cases h : exponent? ((fraction? rest).getD rest) with
        | none => exact List.suffix_rfl
        | some after => exact suffix_of_exponent? h
      exact ((exponent.trans fraction).trans (hrun ▸ List.suffix_append run rest)).trans suffix

theorem within_scalarAt (text : List Char) : Within text (scalarAt text) := by
  unfold scalarAt
  split
  · exact suffix_of_word? ‹_›
  · exact suffix_of_word? ‹_›
  · exact suffix_of_word? ‹_›
  · split
    · exact suffix_of_word? ‹_›
    · exact suffix_of_word? ‹_›
    · exact suffix_of_word? ‹_›
    · exact within_numberAt text

/-! ### Values -/

/-- Up to a measure, values, items and fields are read within their text. -/
structure ReadsWithin (measure : Nat) : Prop where
  value : ∀ text, Within text (valueAt measure text)
  items : ∀ done text, Within text (itemsAt measure done text)
  fields : ∀ done text, Within text (fieldsAt measure done text)

namespace ReadsWithin

variable {measure : Nat}

theorem zero : ReadsWithin 0 where
  value text := by
    rw [valueAt]
    exact within_stop _ _
  items done text := by
    rw [itemsAt]
    exact within_stop _ _
  fields done text := by
    rw [fieldsAt]
    exact within_stop _ _

theorem valueAt_succ (h : ReadsWithin measure) (text : List Char) :
    Within text (valueAt (measure + 1) text) := by
  unfold valueAt
  split
  · exact within_stop _ _
  · rename_i rest
    have string := within_stringFrom ('"' :: rest).length [] rest
    split
    · rename_i hread
      rw [hread] at string
      exact List.IsSuffix.trans string (List.suffix_cons _ _)
    · rename_i hread
      rw [hread] at string
      exact string.error.of_suffix (List.suffix_cons _ _)
  · rename_i rest
    split
    · exact suffix_of_skip ‹_› (List.suffix_cons _ _)
    · exact (h.items [] _).of_suffix ((skip_suffix rest).trans (List.suffix_cons _ _))
  · rename_i rest
    split
    · exact suffix_of_skip ‹_› (List.suffix_cons _ _)
    · exact (h.fields [] _).of_suffix ((skip_suffix rest).trans (List.suffix_cons _ _))
  · exact within_scalarAt text

theorem itemsAt_succ (h : ReadsWithin measure) (done : List Json) (text : List Char) :
    Within text (itemsAt (measure + 1) done text) := by
  rw [itemsAt]
  have item := h.value text
  split
  · rename_i hread
    rw [hread] at item
    exact item.error
  · rename_i first rest hread
    rw [hread] at item
    split
    · exact suffix_of_skip ‹_› item
    · exact (h.items _ _).of_suffix ((skip_suffix _).trans (suffix_of_skip ‹_› item))
    · exact within_stop _ _

theorem fieldsAt_succ (h : ReadsWithin measure) (done : List (String × Json))
    (text : List Char) : Within text (fieldsAt (measure + 1) done text) := by
  unfold fieldsAt
  split
  · rename_i rest
    have key := within_stringFrom ('"' :: rest).length [] rest
    split
    · rename_i hread
      rw [hread] at key
      exact key.error.of_suffix (List.suffix_cons _ _)
    · rename_i hread
      rw [hread] at key
      replace key := List.IsSuffix.trans key (List.suffix_cons '"' rest)
      split
      · rename_i more hskip
        have place := (skip_suffix more).trans (suffix_of_skip hskip key)
        have value := (h.value (skip more)).of_suffix place
        split
        · rename_i hvalue
          rw [hvalue] at value
          exact value.error
        · rename_i hvalue
          rw [hvalue] at value
          split
          · exact suffix_of_skip ‹_› value
          · exact (h.fields _ _).of_suffix ((skip_suffix _).trans (suffix_of_skip ‹_› value))
          · exact within_stop _ _
      · exact within_stop _ _
  · exact within_stop _ _

theorem of_measure : ∀ measure, ReadsWithin measure
  | 0 => zero
  | measure + 1 =>
    have h := of_measure measure
    ⟨h.valueAt_succ, h.itemsAt_succ, h.fieldsAt_succ⟩

end ReadsWithin

/-- **An integer that is refused for its length stands in the text**, as a run of more digits than
are accepted. -/
theorem run_of_parse {digits : Nat} (h : parse text = .error (.longInteger digits)) :
    integerLimit < digits ∧ HasRun text digits := by
  have within := ((ReadsWithin.of_measure (2 * text.length + 2)).value (skip text)).of_suffix
    (skip_suffix text)
  rw [parse] at h
  split_ifs at h
  · cases h
  split at h
  · rename_i reason hread
    rw [hread] at within
    cases reason with
    | problem => cases h
    | longInteger count =>
      cases h
      exact within
  · split at h
    · cases h
    · cases h

/-! ### A single integer -/

section Digit

variable {c : Char}

end Digit

end Json

end ArtifactLens
