import ArtifactLens.Command.Words
import Mathlib.Data.List.Infix
import Mathlib.Tactic.SplitIfs

/-!
# The words of a command

A word (`Words.IsWord`) is a run of plain characters, which are neither blanks nor double quotes,
or such a run, possibly empty, and then a span between double quotes. What stands in the span is
not empty, has a backslash before each of its double quotes (`Words.Escaped`), and does not end in
a backslash.

* **Spans** (`Words.opening`): a span ends at the first double quote without a backslash before it.
  Only where there is none is it taken up to the last one with a backslash (`Words.IsUnclosed`).
* **Splitting** (`Words.cut`): what is split off first, by what ends the first run.
* **Tokens** (`Words.isToken_of_mem`): what is split off is a word, or a run and a span that is not
  closed (`Words.IsOpen`).
* **Joining** (`Words.splitFrom_append_iff`): what is split off where a blank follows is a word, or
  has a span that is not closed and no double quote behind it.
-/

namespace ArtifactLens

namespace Words

/-- The character is neither a blank nor a double quote. -/
def IsPlain (c : Char) : Prop := c ≠ '"' ∧ isBlank c = false

instance (c : Char) : Decidable (IsPlain c) := inferInstanceAs (Decidable (_ ∧ _))

/-- Every double quote of the text has a backslash before it. -/
def Escaped (text : List Char) : Prop :=
  ∀ before after, text = before ++ '"' :: after → before.getLast? = some '\\'

/-- What stands in a span that is closed. -/
structure IsContent (content : List Char) : Prop where
  ne_nil : content ≠ []
  escaped : Escaped content
  getLast? : content.getLast? ≠ some '\\'

/-- A word of a command. -/
inductive IsWord : List Char → Prop
  | run {run : List Char} (ne_nil : run ≠ []) (plain : ∀ c ∈ run, IsPlain c) : IsWord run
  | span {run content : List Char} (plain : ∀ c ∈ run, IsPlain c) (closed : IsContent content) :
      IsWord (run ++ '"' :: (content ++ ['"']))

/-- What is taken into a span that no double quote closes: all up to an escaped double quote. -/
structure IsUnclosed (content : List Char) : Prop where
  escaped : Escaped content
  getLast? : content.getLast? = some '"'

/-- A run and a span that is not closed. -/
inductive IsOpen : List Char → Prop
  | span {run content : List Char} (plain : ∀ c ∈ run, IsPlain c) (unclosed : IsUnclosed content) :
      IsOpen (run ++ '"' :: content)

/-- A double quote of the text has no backslash before it. -/
def Closes (text : List Char) : Prop :=
  ∃ before after, text = before ++ '"' :: after ∧ before.getLast? ≠ some '\\'

variable {text content rest run word : List Char} {words : List (List Char)} {c : Char}
  {taken size : Nat} {known : Option Nat}

/-! ### Escaped quotes -/

theorem Escaped.of_not_mem (h : '"' ∉ text) : Escaped text := by
  rintro before after rfl
  exact absurd (List.mem_append_right _ List.mem_cons_self) h

theorem Escaped.ne_quote (h : Escaped (c :: rest)) : c ≠ '"' := by
  rintro rfl
  cases h [] rest rfl

theorem Escaped.of_append (h : Escaped (content ++ rest)) : Escaped content := by
  rintro before after rfl
  exact h before (after ++ rest) (by simp)

/-- A backslash and a double quote may be taken away together. -/
theorem Escaped.of_pair (h : Escaped ('\\' :: '"' :: rest)) : Escaped rest := by
  rintro before after rfl
  have hlast := h ('\\' :: '"' :: before) after rfl
  cases before with
  | nil => simp at hlast
  | cons d before => simpa using hlast

/-- What is no backslash before a double quote may be taken away alone. -/
theorem Escaped.of_cons (h : Escaped (c :: rest)) (single : c = '\\' → rest.head? ≠ some '"') :
    Escaped rest := by
  rintro before after rfl
  have hlast := h (c :: before) after rfl
  cases before with
  | nil => exact absurd rfl (single (by simpa using hlast))
  | cons d before => simpa using hlast

/-- A text whose double quotes are escaped is read one character at a time, or two where a double
quote is escaped. -/
@[elab_as_elim]
theorem Escaped.induction {motive : (text : List Char) → Escaped text → Prop}
    (nil : ∀ h, motive [] h)
    (pair : ∀ rest h, motive rest (Escaped.of_pair h) → motive ('\\' :: '"' :: rest) h)
    (single : ∀ c rest h, c ≠ '"' → (apart : c = '\\' → rest.head? ≠ some '"') →
      motive rest (Escaped.of_cons h apart) → motive (c :: rest) h) {text : List Char}
    (h : Escaped text) : motive text h := by
  match text with
  | [] => exact nil h
  | c :: rest =>
    by_cases escape : c = '\\' ∧ rest.head? = some '"'
    · obtain ⟨rfl, hhead⟩ := escape
      obtain ⟨rest, rfl⟩ := List.head?_eq_some_iff.mp hhead
      exact pair rest h (Escaped.induction nil pair single h.of_pair)
    · rw [not_and] at escape
      exact single c rest h h.ne_quote escape
        (Escaped.induction nil pair single (h.of_cons escape))
termination_by text.length

theorem closes_of_not_escaped (h : ¬Escaped text) : Closes text := by
  rw [Escaped] at h
  push Not at h
  exact h

/-- The first double quote without a backslash has only escaped ones before it. -/
theorem Closes.exists_first (h : Closes text) :
    ∃ content rest, text = content ++ '"' :: rest ∧ Escaped content ∧
      content.getLast? ≠ some '\\' := by
  obtain ⟨before, after, rfl, hlast⟩ := h
  induction hlength : before.length using Nat.strong_induction_on generalizing before after with
  | _ length ih =>
    by_cases hescaped : Escaped before
    · exact ⟨before, after, rfl, hescaped, hlast⟩
    · obtain ⟨earlier, between, rfl, hearlier⟩ := closes_of_not_escaped hescaped
      obtain ⟨content, rest, htext, hcontent⟩ :=
        ih earlier.length (by simp [← hlength]) earlier (between ++ '"' :: after) hearlier rfl
      exact ⟨content, rest, by rw [← htext]; simp, hcontent⟩

/-- A character of two texts is in the first or in the second. -/
theorem append_eq_append_cons {before after : List Char}
    (h : text ++ rest = before ++ c :: after) :
    (∃ more, text = before ++ c :: more ∧ after = more ++ rest) ∨
      ∃ more, before = text ++ more ∧ rest = more ++ c :: after := by
  obtain hsecond | ⟨more, htext, hafter⟩ := List.append_eq_append_iff.mp h
  · exact .inr hsecond
  · cases more with
    | nil => exact .inr ⟨[], by simpa using htext.symm, hafter.symm⟩
    | cons d more =>
      obtain rfl := (List.cons.inj hafter).1
      exact .inl ⟨more, htext, (List.cons.inj hafter).2⟩

/-- A double quote may be added after a backslash. -/
theorem Escaped.concat (h : Escaped text) (hlast : text.getLast? = some '\\') :
    Escaped (text ++ ['"']) := by
  intro before after happend
  obtain ⟨more, htext, -⟩ | ⟨more, hbefore, hquote⟩ := append_eq_append_cons happend
  · exact h before more htext
  · -- the double quote is the one added
    obtain rfl : more = [] := by
      have hlength := congrArg List.length hquote
      simp at hlength
      exact List.length_eq_zero_iff.mp (by omega)
    rwa [hbefore, List.append_nil]

/-- A text whose double quotes are escaped is taken up to the last of them. -/
theorem Escaped.exists_last (h : Escaped text) (quoted : '"' ∈ text) :
    ∃ content rest, text = content ++ rest ∧ IsUnclosed content ∧ '"' ∉ rest := by
  obtain ⟨rest, before, hreverse, free⟩ :=
    List.eq_append_cons_of_mem (List.mem_reverse.mpr quoted)
  have htext : text = (before.reverse ++ ['"']) ++ rest.reverse := by
    rw [← List.reverse_reverse text, hreverse]
    simp
  rw [htext] at h
  exact ⟨before.reverse ++ ['"'], rest.reverse, htext, ⟨h.of_append, by simp⟩, by simpa⟩

/-! ### Spans -/

theorem spanFrom_pair : spanFrom taken known ('\\' :: '"' :: rest) =
    spanFrom (taken + 2) (some (taken + 2)) rest := by
  rw [spanFrom]

theorem spanFrom_single (quote : c ≠ '"') (single : c = '\\' → rest.head? ≠ some '"') :
    spanFrom taken known (c :: rest) = spanFrom (taken + 1) known rest := by
  rw [spanFrom.eq_def]
  split
  · rename_i heq
    cases heq
  · rename_i heq
    exact absurd (List.cons.inj heq).1 quote
  · rename_i heq
    obtain ⟨rfl, rfl⟩ := List.cons.inj heq
    exact absurd rfl (single rfl)
  · rename_i heq
    obtain ⟨rfl, rfl⟩ := List.cons.inj heq
    rfl

/-- A span ends at the first double quote without a backslash before it; at the very end of the
text, a backslash does not matter. -/
theorem spanFrom_append (escaped : Escaped content)
    (closes : content.getLast? = some '\\' → rest = []) (started : taken = 0 → content ≠ []) :
    spanFrom taken known (content ++ '"' :: rest) = some (taken + content.length + 1) := by
  induction escaped using Escaped.induction generalizing taken known with
  | nil => simpa [spanFrom] using started
  | pair more _ ih =>
    have hmore : more.getLast? = some '\\' → rest = [] := by
      cases more with
      | nil => exact fun h => nomatch h
      | cons d more => simpa using closes
    rw [List.cons_append, List.cons_append, spanFrom_pair, ih hmore (by simp)]
    simp only [List.length_cons, Option.some.injEq]
    omega
  | single c more _ quote apart ih =>
    by_cases last : c = '\\' ∧ more = []
    · -- the backslash at the end takes the closing quote along
      obtain ⟨rfl, rfl⟩ := last
      obtain rfl := closes rfl
      simp [spanFrom]
    · have hsingle : c = '\\' → (more ++ '"' :: rest).head? ≠ some '"' := by
        intro hc
        cases more with
        | nil => exact absurd ⟨hc, rfl⟩ last
        | cons d more => exact apart hc
      have hmore : more.getLast? = some '\\' → rest = [] := by
        cases more with
        | nil => exact fun h => nomatch h
        | cons d more => simpa using closes
      rw [List.cons_append, spanFrom_single quote hsingle, ih hmore (by simp)]
      simp only [List.length_cons, Option.some.injEq]
      omega

theorem spanFrom_of_not_mem (free : '"' ∉ text) : spanFrom taken known text = known := by
  induction text generalizing taken with
  | nil => rw [spanFrom]
  | cons c rest ih =>
    rw [List.mem_cons, not_or] at free
    have apart : c = '\\' → rest.head? ≠ some '"' := fun _ head =>
      free.2 (List.mem_of_mem_head? head)
    rw [spanFrom_single (Ne.symm free.1) apart, ih free.2]

/-- Where no other double quote follows, a span is taken up to the last escaped one. -/
theorem spanFrom_unclosed (unclosed : IsUnclosed content) (free : '"' ∉ rest) :
    spanFrom taken known (content ++ rest) = some (taken + content.length) := by
  obtain ⟨escaped, last⟩ := unclosed
  induction escaped using Escaped.induction generalizing taken known with
  | nil => cases last
  | pair more _ ih =>
    rw [List.cons_append, List.cons_append, spanFrom_pair]
    cases more with
    | nil =>
      rw [List.nil_append, spanFrom_of_not_mem free]
      rfl
    | cons d more =>
      rw [ih (by simpa using last)]
      simp only [List.length_cons, Option.some.injEq]
      omega
  | single c more _ quote apart ih =>
    cases more with
    | nil => exact absurd (by simpa using last) quote
    | cons d more =>
      rw [List.cons_append, spanFrom_single quote (by simpa using apart), ih (by simpa using last)]
      simp only [List.length_cons, Option.some.injEq]
      omega

theorem span?_closed (closed : IsContent content) :
    span? (content ++ '"' :: rest) = some (content.length + 1) := by
  rw [span?, spanFrom_append closed.escaped (fun h => absurd h closed.getLast?)
    fun _ => closed.ne_nil, Nat.zero_add]

theorem span?_unclosed (unclosed : IsUnclosed content) (free : '"' ∉ rest) :
    span? (content ++ rest) = some content.length := by
  rw [span?, spanFrom_unclosed unclosed free, Nat.zero_add]

/-- What a double quote opens, by the text after it. -/
inductive Opening : List Char → Option Nat → Prop
  | closed (content rest : List Char) (closed : IsContent content) :
      Opening (content ++ '"' :: rest) (some (content.length + 1))
  | unclosed (content rest : List Char) (unclosed : IsUnclosed content) (free : '"' ∉ rest) :
      Opening (content ++ rest) (some content.length)
  /-- A span without content is not taken. -/
  | empty (rest : List Char) : Opening ('"' :: rest) none
  | alone (text : List Char) (free : '"' ∉ text) : Opening text none

theorem opening (text : List Char) : Opening text (span? text) := by
  by_cases quoted : '"' ∈ text
  · by_cases escaped : Escaped text
    · obtain ⟨content, rest, rfl, unclosed, free⟩ := escaped.exists_last quoted
      rw [span?_unclosed unclosed free]
      exact .unclosed content rest unclosed free
    · obtain ⟨content, rest, rfl, hcontent, hlast⟩ := (closes_of_not_escaped escaped).exists_first
      by_cases hsome : content = []
      · subst hsome
        rw [span?, List.nil_append, spanFrom, if_pos rfl]
        exact .empty rest
      · rw [span?_closed ⟨hsome, hcontent, hlast⟩]
        exact .closed content rest ⟨hsome, hcontent, hlast⟩
  · rw [span?, spanFrom_of_not_mem quoted]
    exact .alone text quoted

/-- What a span takes in: its content and the double quote that closes it, or where none does, all
up to the last double quote. -/
theorem take_span? (opened : span? text = some size) :
    (∃ content, text.take size = content ++ ['"'] ∧ IsContent content) ∨
      IsUnclosed (text.take size) ∧ '"' ∉ text.drop size := by
  have hopening := opening text
  rw [opened] at hopening
  generalize hsize : some size = found at hopening
  cases hopening with
  | closed content rest closed =>
    obtain rfl := Option.some.inj hsize
    rw [List.append_cons]
    exact .inl ⟨content, List.take_left' (by simp), closed⟩
  | unclosed content rest unclosed free =>
    obtain rfl := Option.some.inj hsize
    rw [List.take_left, List.drop_left]
    exact .inr ⟨unclosed, free⟩
  | empty | alone => cases hsize

/-! ### Splitting -/

theorem isPlain_iff : IsPlain c ↔ c ≠ '"' ∧ isBlank c = false := Iff.rfl

/-- A text is a word if every character of it is plain, which can be tested. -/
theorem isWord_of_all (nonempty : text ≠ [])
    (plain : text.all (fun c => decide (IsPlain c)) = true) : IsWord text :=
  .run nonempty fun c hc => of_decide_eq_true (List.all_eq_true.mp plain c hc)

/-- What comes before the first double quote, if that is a run. -/
theorem takeWhile_run (plain : ∀ c ∈ run, IsPlain c) (rest : List Char) :
    (run ++ '"' :: rest).takeWhile (· ≠ '"') = run := by
  rw [List.takeWhile_append_of_pos fun c hc => decide_eq_true (plain c hc).1]
  simp

theorem run_quote_inj {other : List Char} (plain : ∀ c ∈ run, IsPlain c)
    (plain' : ∀ c ∈ other, IsPlain c) (h : run ++ '"' :: content = other ++ '"' :: rest) :
    run = other ∧ content = rest := by
  have hrun : run = other := by
    rw [← takeWhile_run plain content, h, takeWhile_run plain' rest]
  subst hrun
  exact ⟨rfl, (List.cons.inj (List.append_cancel_left h)).2⟩

theorem splitFrom_blank (blank : isBlank c = true) :
    splitFrom run (c :: rest) = emit run (splitFrom [] rest) := by
  have quote : c ≠ '"' := by
    rintro rfl
    revert blank
    decide
  rw [splitFrom, if_neg quote, if_pos blank]

theorem splitFrom_plain (plain : IsPlain c) :
    splitFrom run (c :: rest) = splitFrom (c :: run) rest := by
  rw [splitFrom, if_neg plain.1, if_neg (by simp [plain.2])]

theorem splitFrom_append (plain : ∀ c ∈ text, IsPlain c) :
    splitFrom run (text ++ rest) = splitFrom (text.reverse ++ run) rest := by
  induction text generalizing run with
  | nil => rfl
  | cons c text ih =>
    rw [List.forall_mem_cons] at plain
    rw [List.cons_append, splitFrom_plain plain.1, ih plain.2]
    simp

theorem emit_reverse (words : List (List Char)) :
    emit run.reverse words = if run = [] then words else run :: words := by
  cases run <;> simp [emit]

/-- What is split off a text first, by what ends its first run. -/
inductive Cut : List Char → List (List Char) → Prop
  | ended (run : List Char) (plain : ∀ c ∈ run, IsPlain c) : Cut run (emit run.reverse [])
  | blank (run : List Char) (plain : ∀ c ∈ run, IsPlain c) (c : Char) (rest : List Char)
      (blank : isBlank c = true) : Cut (run ++ c :: rest) (emit run.reverse (splitFrom [] rest))
  | span (run : List Char) (plain : ∀ c ∈ run, IsPlain c) (rest : List Char) (size : Nat)
      (opened : span? rest = some size) :
      Cut (run ++ '"' :: rest) ((run ++ '"' :: rest.take size) :: splitFrom [] (rest.drop size))
  /-- A double quote that opens no span is dropped. -/
  | dropped (run : List Char) (plain : ∀ c ∈ run, IsPlain c) (rest : List Char)
      (unopened : span? rest = none) :
      Cut (run ++ '"' :: rest) (emit run.reverse (splitFrom [] rest))

private theorem cut_append (plain : ∀ c ∈ run, IsPlain c) :
    Cut (run ++ text) (splitFrom run.reverse text) := by
  induction text generalizing run with
  | nil =>
    rw [List.append_nil, splitFrom]
    exact .ended run plain
  | cons c rest ih =>
    by_cases hc : IsPlain c
    · have hrun : ∀ d ∈ run ++ [c], IsPlain d := by
        simpa [or_imp, forall_and] using ⟨plain, hc⟩
      rw [splitFrom_plain hc, List.append_cons, ← List.reverse_concat']
      exact ih hrun
    · by_cases quote : c = '"'
      · subst quote
        rw [splitFrom, if_pos rfl]
        cases opened : span? rest with
        | none => exact .dropped run plain rest opened
        | some size =>
          rw [List.reverse_reverse]
          exact .span run plain rest size opened
      · have blank : isBlank c = true := by simpa [isPlain_iff, quote] using hc
        rw [splitFrom_blank blank]
        exact .blank run plain c rest blank

theorem cut (text : List Char) : Cut text (splitFrom [] text) :=
  @cut_append text [] (by simp)

/-- What splitting may give: a word, or a run and a span that is taken up to any double quote. -/
inductive IsToken : List Char → Prop
  | run {run : List Char} (ne_nil : run ≠ []) (plain : ∀ c ∈ run, IsPlain c) : IsToken run
  | span {run : List Char} (plain : ∀ c ∈ run, IsPlain c) (rest : List Char) {size : Nat}
      (opened : span? rest = some size) : IsToken (run ++ '"' :: rest.take size)

/-- **Splitting gives tokens only.** -/
theorem isToken_of_mem {word : List Char} (h : word ∈ splitFrom [] text) : IsToken word := by
  induction hlength : text.length using Nat.strong_induction_on generalizing text with
  | _ length ih =>
    have emitted {run rest : List Char} (plain : ∀ c ∈ run, IsPlain c)
        (shorter : rest.length < length) (h : word ∈ emit run.reverse (splitFrom [] rest)) :
        IsToken word := by
      rw [emit_reverse] at h
      split_ifs at h with hrun
      · exact ih rest.length shorter h rfl
      · obtain rfl | h := List.mem_cons.mp h
        · exact .run hrun plain
        · exact ih rest.length shorter h rfl
    have hcut := cut text
    generalize splitFrom [] text = words at hcut h
    cases hcut with
    | ended run plain =>
      rw [emit_reverse] at h
      split_ifs at h with hrun
      · cases h
      · obtain rfl := List.mem_singleton.mp h
        exact .run hrun plain
    | blank run plain c rest => exact emitted plain (by simp at hlength; omega) h
    | dropped run plain rest => exact emitted plain (by simp at hlength; omega) h
    | span run plain rest size opened =>
      obtain rfl | h := List.mem_cons.mp h
      · exact .span plain rest opened
      · exact ih (rest.drop size).length (by simp at hlength ⊢; omega) h rfl

theorem IsWord.not_isSuffix (h : IsWord word) : ¬['\\', '"'] <:+ word := by
  rintro ⟨before, hbefore⟩
  cases h with
  | run _ plain => exact (plain '"' (hbefore ▸ by simp)).1 rfl
  | @span run content plain closed =>
    have hconcat : (before ++ ['\\']) ++ ['"'] = (run ++ '"' :: content) ++ ['"'] := by
      simpa using hbefore
    have hlast := congrArg List.getLast? (List.append_cancel_right hconcat)
    rw [List.getLast?_concat, List.append_cons, List.getLast?_append_of_ne_nil _ closed.ne_nil]
      at hlast
    exact closed.getLast? hlast.symm

theorem IsOpen.isSuffix (h : IsOpen word) : ['\\', '"'] <:+ word := by
  obtain @⟨run, content, plain, escaped, hlast⟩ := h
  obtain ⟨before, rfl⟩ := List.getLast?_eq_some_iff.mp hlast
  obtain ⟨earlier, rfl⟩ := List.getLast?_eq_some_iff.mp (escaped before [] rfl)
  exact ⟨run ++ '"' :: earlier, by simp⟩

theorem IsOpen.getLast? (h : IsOpen word) : word.getLast? = some '"' := by
  obtain ⟨front, rfl⟩ := h.isSuffix
  simp

namespace IsToken

/-- A token is a word, or has a span that is not closed. -/
theorem isWord_or_isOpen (h : IsToken word) : IsWord word ∨ IsOpen word := by
  cases h with
  | run ne_nil plain => exact .inl (.run ne_nil plain)
  | span plain rest opened =>
    obtain ⟨content, htake, closed⟩ | ⟨unclosed, -⟩ := take_span? opened
    · rw [htake]
      exact .inl (.span plain closed)
    · exact .inr (.span plain unclosed)

/-- A token is a word unless it ends at an escaped double quote. -/
theorem isWord_iff (h : IsToken word) : IsWord word ↔ ¬['\\', '"'] <:+ word :=
  ⟨IsWord.not_isSuffix, fun hsuffix =>
    h.isWord_or_isOpen.resolve_right fun hopen => hsuffix hopen.isSuffix⟩

theorem ne_nil (h : IsToken word) : word ≠ [] := by
  cases h with
  | run ne_nil => exact ne_nil
  | span => simp

theorem not_blank (h : IsToken (c :: rest)) : isBlank c = false := by
  generalize hword : c :: rest = word at h
  cases h with
  | run _ plain => exact (plain c (hword ▸ List.mem_cons_self)).2
  | @span run plain =>
    cases run with
    | nil =>
      obtain rfl := (List.cons.inj hword).1
      decide
    | cons d run =>
      obtain rfl := (List.cons.inj hword).1
      exact (plain c List.mem_cons_self).2

/-- A token that starts with a double quote goes on to another, but not at once. -/
theorem of_quote (h : IsToken ('"' :: rest)) : '"' ∈ rest ∧ rest.head? ≠ some '"' := by
  generalize hword : '"' :: rest = word at h
  obtain h | h := h.isWord_or_isOpen
  · cases h with
    | run _ plain => exact absurd rfl (plain '"' (hword ▸ List.mem_cons_self)).1
    | @span run content plain closed =>
      obtain ⟨rfl, rfl⟩ := @run_quote_inj _ _ [] _ nofun plain hword
      obtain ⟨ne_nil, escaped, -⟩ := closed
      cases content with
      | nil => exact absurd rfl ne_nil
      | cons d content => exact ⟨by simp, by simpa using escaped.ne_quote⟩
  · obtain @⟨run, content, plain, escaped, hlast⟩ := h
    obtain ⟨rfl, rfl⟩ := @run_quote_inj _ _ [] _ nofun plain hword
    refine ⟨List.mem_of_getLast? hlast, fun hhead => ?_⟩
    obtain ⟨more, rfl⟩ := List.head?_eq_some_iff.mp hhead
    exact escaped.ne_quote rfl

end IsToken

/-! ### Joining -/

/-- A word is split off the front of a text where nothing or a blank follows it. -/
theorem splitFrom_word {word : List Char} (h : IsWord word)
    (apart : ∀ c, rest.head? = some c → isBlank c = true) :
    splitFrom [] (word ++ rest) = word :: splitFrom [] rest := by
  cases h with
  | run ne_nil plain =>
    rw [splitFrom_append plain, List.append_nil]
    cases rest with
    | nil => rw [splitFrom, emit_reverse, if_neg ne_nil, splitFrom]; rfl
    | cons c rest =>
      rw [splitFrom_blank (apart c rfl), emit_reverse, if_neg ne_nil, splitFrom_blank (apart c rfl)]
      rfl
  | @span run content plain closed =>
    have htake : (content ++ '"' :: rest).take (content.length + 1) = content ++ ['"'] := by
      rw [List.append_cons]
      exact List.take_left' (by simp)
    have hdrop : (content ++ '"' :: rest).drop (content.length + 1) = rest := by
      rw [List.append_cons]
      exact List.drop_left' (by simp)
    rw [List.append_assoc, splitFrom_append plain, List.append_nil]
    simp only [List.cons_append, List.append_assoc, List.nil_append]
    rw [splitFrom, if_pos rfl, span?_closed closed]
    simp only [List.reverse_reverse, htake, hdrop]

/-- A word with a span that is not closed is split off where no double quote follows it. -/
theorem splitFrom_open (h : IsOpen word) (free : '"' ∉ rest) :
    splitFrom [] (word ++ rest) = word :: splitFrom [] rest := by
  obtain @⟨run, content, plain, unclosed⟩ := h
  rw [List.append_assoc, splitFrom_append plain, List.append_nil, List.cons_append, splitFrom,
    if_pos rfl, span?_unclosed unclosed free]
  simp only [List.reverse_reverse, List.take_left, List.drop_left]

/-- What is split off the front of a text is a word, or has a span that is not closed, and no double
quote follows. -/
theorem isWord_or_isOpen_of_splitFrom
    (h : splitFrom [] (word ++ rest) = word :: words) :
    IsWord word ∨ IsOpen word ∧ '"' ∉ rest := by
  have htoken : IsToken word := isToken_of_mem (h ▸ List.mem_cons_self)
  have hcut := cut (word ++ rest)
  generalize htext : word ++ rest = text at hcut
  rw [htext] at h
  generalize splitFrom [] text = split at hcut h
  have emitted {run : List Char} {others : List (List Char)} (plain : ∀ c ∈ run, IsPlain c)
      (h : emit run.reverse others = word :: words) (hrun : run ≠ []) : IsWord word := by
    rw [emit_reverse, if_neg hrun] at h
    obtain rfl := (List.cons.inj h).1
    exact .run hrun plain
  cases hcut with
  | ended run plain =>
    refine .inl (emitted plain h ?_)
    rintro rfl
    cases h
  | blank run plain c tail blank =>
    refine .inl (emitted plain h ?_)
    rintro rfl
    cases word with
    | nil => exact htoken.ne_nil rfl
    | cons d word =>
      obtain rfl := (List.cons.inj htext).1
      exact Bool.false_ne_true (htoken.not_blank.symm.trans blank)
  | dropped run plain tail unopened =>
    refine .inl (emitted plain h ?_)
    rintro rfl
    cases word with
    | nil => exact htoken.ne_nil rfl
    | cons d word =>
      -- a token that starts here has another double quote, so this one would open a span
      obtain ⟨rfl, htail⟩ := List.cons.inj htext
      obtain ⟨again, later⟩ := htoken.of_quote
      have hopening := opening tail
      rw [unopened] at hopening
      cases hopening with
      | empty more =>
        cases word with
        | nil => cases again
        | cons e word =>
          obtain rfl := (List.cons.inj htail).1
          exact later rfl
      | alone _ free => exact free (htail ▸ List.mem_append_left rest again)
  | span run plain tail size opened =>
    obtain rfl := (List.cons.inj h).1
    have htail : tail.take size ++ rest = tail := by simpa using htext
    have hrest : rest = tail.drop size :=
      List.append_cancel_left (htail.trans (List.take_append_drop size tail).symm)
    obtain ⟨content, htake, closed⟩ | ⟨unclosed, free⟩ := take_span? opened
    · rw [htake]
      exact .inl (.span plain closed)
    · exact .inr ⟨.span plain unclosed, hrest ▸ free⟩

/-- **A word is split off the front** of a text, where nothing or a blank follows it, if and only
if it is a word, or has a span that is not closed and no double quote follows. -/
theorem splitFrom_append_iff (apart : ∀ c, rest.head? = some c → isBlank c = true) :
    splitFrom [] (word ++ rest) = word :: words ↔
      (IsWord word ∨ IsOpen word ∧ '"' ∉ rest) ∧ splitFrom [] rest = words := by
  have split (h : IsWord word ∨ IsOpen word ∧ '"' ∉ rest) :
      splitFrom [] (word ++ rest) = word :: splitFrom [] rest := by
    obtain hword | ⟨hopen, free⟩ := h
    · exact splitFrom_word hword apart
    · exact splitFrom_open hopen free
  constructor
  · intro h
    have hword := isWord_or_isOpen_of_splitFrom h
    rw [split hword] at h
    exact ⟨hword, (List.cons.inj h).2⟩
  · rintro ⟨hword, rfl⟩
    exact split hword

theorem splitFrom_self_iff : splitFrom [] word = [word] ↔ IsWord word ∨ IsOpen word := by
  have hsplit := @splitFrom_append_iff [] word [] nofun
  have hnil : splitFrom [] [] = [] := by rw [splitFrom]; rfl
  rwa [List.append_nil, hnil, and_iff_left rfl, and_iff_left List.not_mem_nil] at hsplit

/-- Whether a text is a word can be tested by splitting it. -/
theorem isWord_iff_splitFrom :
    IsWord word ↔ splitFrom [] word = [word] ∧ ¬['\\', '"'] <:+ word := by
  rw [splitFrom_self_iff]
  constructor
  · intro h
    exact ⟨.inl h, h.not_isSuffix⟩
  · rintro ⟨h, hsuffix⟩
    exact h.resolve_right fun hopen => hsuffix hopen.isSuffix

instance (word : List Char) : Decidable (IsWord word) :=
  decidable_of_iff _ isWord_iff_splitFrom.symm

/-- A text between double quotes. -/
def quoted (text : List Char) : List Char := '"' :: (text ++ ['"'])

/-- A quoted text at the end is split off as a whole if it is not empty and its double quotes are
escaped, and only then. -/
theorem splitFrom_quoted_iff :
    splitFrom [] (quoted text) = [quoted text] ↔ text ≠ [] ∧ Escaped text := by
  rw [splitFrom_self_iff]
  constructor
  · rintro (h | h)
    · generalize hword : quoted text = word at h
      cases h with
      | run _ plain => exact absurd rfl (plain '"' (hword ▸ List.mem_cons_self)).1
      | @span run content plain closed =>
        obtain ⟨-, htext⟩ := @run_quote_inj _ _ [] _ nofun plain hword
        obtain rfl := List.append_cancel_right htext
        exact ⟨closed.ne_nil, closed.escaped⟩
    · generalize hword : quoted text = word at h
      obtain @⟨run, content, plain, escaped, -⟩ := h
      obtain ⟨-, rfl⟩ := @run_quote_inj _ _ [] _ nofun plain hword
      refine ⟨?_, escaped.of_append⟩
      rintro rfl
      exact escaped.ne_quote rfl
  · rintro ⟨hne, escaped⟩
    by_cases hlast : text.getLast? = some '\\'
    · exact .inr (@IsOpen.span [] (text ++ ['"']) nofun ⟨escaped.concat hlast, by simp⟩)
    · exact .inl (@IsWord.span [] text nofun ⟨hne, escaped, hlast⟩)

private theorem intercalate_cons (word : List Char) (words : List (List Char)) (last : List Char) :
    List.intercalate [' '] (word :: words ++ [last]) =
      word ++ ' ' :: List.intercalate [' '] (words ++ [last]) := by
  cases words <;> simp [List.intercalate_cons_cons]

private theorem quote_mem_intercalate (words : List (List Char)) (text : List Char) :
    '"' ∈ List.intercalate [' '] (words ++ [quoted text]) := by
  induction words with
  | nil => simp [quoted]
  | cons word words ih =>
    rw [intercalate_cons]
    exact List.mem_append_right _ (List.mem_cons_of_mem _ ih)

/-- **What is joined with a quoted text at the end is split again** if and only if all before it
are words and the text is not empty and has all its double quotes escaped. -/
theorem splitFrom_intercalate_iff :
    splitFrom [] (List.intercalate [' '] (words ++ [quoted text])) = words ++ [quoted text] ↔
      (∀ word ∈ words, IsWord word) ∧ text ≠ [] ∧ Escaped text := by
  induction words with
  | nil => simpa using splitFrom_quoted_iff
  | cons word words ih =>
    have hblank : isBlank ' ' = true := isBlank_space
    have hnext : splitFrom [] (' ' :: List.intercalate [' '] (words ++ [quoted text])) =
        splitFrom [] (List.intercalate [' '] (words ++ [quoted text])) := splitFrom_blank hblank
    have closing := List.mem_cons_of_mem ' ' (quote_mem_intercalate words text)
    rw [intercalate_cons, List.cons_append, splitFrom_append_iff (by simp [hblank]), hnext, ih,
      List.forall_mem_cons, and_assoc]
    refine and_congr_left fun _ => or_iff_left ?_
    exact fun h => h.2 closing

end Words

end ArtifactLens
