import ArtifactLens.Proofs.Content
import Mathlib.Data.List.Induction
import Mathlib.Data.List.TakeWhile
import Mathlib.Data.Nat.Digits.Defs
import Mathlib.Tactic.Common

/-!
# The lines of a listing

Lines of two forms say more than their text. A **line directive** is blanks, `.loc` and two fields,
each of them blanks and a run of digits; the second field is the number of a source line, and what
follows it does not matter (`Listing.Directs`). An **addressed line** is blanks, a run of
hexadecimal digits, a colon, at most one blank and a text (`Listing.Addresses`).

The readers go through a line once, from the left, and take as much as they can at each step. This
finds the forms (`Listing.directive?_eq_some_iff`, `Listing.addressed?_eq_some_iff`) because no
digit is a blank, and neither are a dot, a colon and the hexadecimal digits: a run ends where the
next piece of the form begins.

A listing is read from its first line to its last, with the source line in force handed on. What a
line is given in this way can be told from the lines up to it alone, by looking back from it for a
directive (`Listing.force?`), so that the whole listing has a closed form
(`Listing.parse_eq_ok_iff`): each line by itself, with what the lines up to it say.

**A listing has one line for each line of its text** (`Listing.parse_positions`). Its source line is
that of the last directive up to it (`Listing.InForce`), in a listing of a binary as in any other,
and its address and text are those of its form (`Listing.Shows`). Nothing but a line number of too
many digits stands against this. No line is rendered with a newline in it
(`Listing.newline_not_mem_render_of_parse`), since a newline ends a line of the text.
-/

namespace ArtifactLens

/-! ### Runs -/

/-- A text that is not empty and has characters of one class only. -/
def IsRun (isMember : Char → Bool) (text : List Char) : Prop :=
  text ≠ [] ∧ ∀ c ∈ text, isMember c = true

/-- The text does not start with a character of the class. -/
def Stops (isMember : Char → Bool) (text : List Char) : Prop :=
  ∀ c, text.head? = some c → isMember c = false

section

variable {isMember : Char → Bool} {run rest text : List Char}

theorem stops_cons {c : Char} : Stops isMember (c :: rest) ↔ isMember c = false := by
  simp [Stops]

theorem stops_dropWhile (text : List Char) : Stops isMember (text.dropWhile isMember) := by
  intro c head
  have := List.head?_dropWhile_not isMember text
  rwa [head] at this

theorem Stops.dropWhile_eq (stops : Stops isMember text) : text.dropWhile isMember = text := by
  cases text with
  | nil => rfl
  | cons c rest => exact List.dropWhile_cons_of_neg (by simpa using stops_cons.mp stops)

theorem Stops.takeWhile_eq (stops : Stops isMember text) : text.takeWhile isMember = [] := by
  cases text with
  | nil => rfl
  | cons c rest => exact List.takeWhile_cons_of_neg (by simpa using stops_cons.mp stops)

theorem dropWhile_run (run_mem : ∀ c ∈ run, isMember c = true) (stops : Stops isMember rest) :
    (run ++ rest).dropWhile isMember = rest := by
  rw [List.dropWhile_append_of_pos run_mem, stops.dropWhile_eq]

theorem takeWhile_run_append (run_mem : ∀ c ∈ run, isMember c = true)
    (stops : Stops isMember rest) : (run ++ rest).takeWhile isMember = run := by
  rw [List.takeWhile_append_of_pos run_mem, stops.takeWhile_eq, List.append_nil]

theorem drop_length_takeWhile (isMember : Char → Bool) (text : List Char) :
    text.drop (text.takeWhile isMember).length = text.dropWhile isMember :=
  calc text.drop (text.takeWhile isMember).length
      = (text.takeWhile isMember ++ text.dropWhile isMember).drop
          (text.takeWhile isMember).length := by rw [List.takeWhile_append_dropWhile]
    _ = text.dropWhile isMember := List.drop_left

/-- A run of one class stops all classes that share no character with it. -/
theorem IsRun.stops {isOther : Char → Bool} (h : IsRun isMember run)
    (apart : ∀ c, isMember c = true → isOther c = false) (rest : List Char) :
    Stops isOther (run ++ rest) := by
  obtain ⟨nonempty, all⟩ := h
  cases run with
  | nil => exact absurd rfl nonempty
  | cons c more => exact stops_cons.mpr (apart c (all c List.mem_cons_self))

end

namespace Digit

/-- The character is a hexadecimal digit. -/
def isHex (c : Char) : Bool := (hexValue? c).isSome

/-- The number that digits spell in a base, by the values of the single digits. -/
def spelled (base : Nat) (value? : Char → Option Nat) (digits : List Char) : Nat :=
  Nat.ofDigits base (digits.reverse.filterMap value?)

private theorem foldl_eq_spelled {base : Nat} {value? : Char → Option Nat} {digits : List Char}
    (all : ∀ c ∈ digits, (value? c).isSome = true) :
    digits.foldl (fun n c => base * n + (value? c).getD 0) 0 = spelled base value? digits := by
  induction digits using List.reverseRecOn with
  | nil => rfl
  | append_singleton digits last ih =>
    obtain ⟨value, hvalue⟩ := Option.isSome_iff_exists.mp (all last (by simp))
    have ih := ih fun c hc => all c (List.mem_append_left _ hc)
    rw [List.foldl_append, ih, spelled, spelled, List.reverse_append, List.reverse_singleton,
      List.singleton_append, List.filterMap_cons_some hvalue, Nat.ofDigits_cons]
    simp [hvalue, Nat.add_comm]

theorem numeral_eq_spelled {digits : List Char} (all : ∀ c ∈ digits, isDigit c = true) :
    numeral digits = spelled 10 value? digits := foldl_eq_spelled all

theorem hexNumeral_eq_spelled {digits : List Char} (all : ∀ c ∈ digits, isHex c = true) :
    hexNumeral digits = spelled 16 hexValue? digits := foldl_eq_spelled all

/-- No digit of any script is a blank. -/
theorem isBlank_of_isDigit {c : Char} (h : isDigit c = true) : isBlank c = false := by
  have apart : ∀ first ∈ zeros, ∀ r ∈ blankRanges, first + 9 < r.1 ∨ r.2 < first := by decide
  rw [isDigit, value?, Option.isSome_map, List.find?_isSome] at h
  obtain ⟨first, hfirst, hc⟩ := h
  rw [Bool.and_eq_true, decide_eq_true_eq, decide_eq_true_eq] at hc
  rw [isBlank, List.any_eq_false]
  intro r hr inside
  rw [Bool.and_eq_true, decide_eq_true_eq, decide_eq_true_eq] at inside
  have := apart first hfirst r hr
  omega

/-- No hexadecimal digit is a blank. -/
theorem isBlank_of_isHex {c : Char} (h : isHex c = true) : isBlank c = false := by
  have apart : ∀ r ∈ blankRanges, r.2 < '0'.toNat ∨ 'f'.toNat < r.1 := by decide
  have between : '0'.toNat ≤ c.toNat ∧ c.toNat ≤ 'f'.toNat := by
    rw [isHex, hexValue?] at h
    simp only [Char.le_def, UInt32.le_iff_toNat_le] at h
    simp only [Char.toNat]
    split_ifs at h with decimal lower upper
    · exact ⟨decimal.1, decimal.2.trans (by decide)⟩
    · exact ⟨le_trans (by decide) lower.1, lower.2⟩
    · exact ⟨le_trans (by decide) upper.1, upper.2.trans (by decide)⟩
    · cases h
  rw [isBlank, List.any_eq_false]
  intro r hr inside
  rw [Bool.and_eq_true, decide_eq_true_eq, decide_eq_true_eq] at inside
  have := apart r hr
  omega

end Digit

namespace Listing

/-! ### Line directives -/

/-- A text starts with blanks and a run of digits, which the rest does not prolong. -/
def IsField (text digits rest : List Char) : Prop :=
  ∃ gap, text = gap ++ (digits ++ rest) ∧ IsRun isBlank gap ∧ IsRun Digit.isDigit digits ∧
    Stops Digit.isDigit rest

/-- The line is a directive with a number: blanks, `.loc` and two fields, of which the second is the
number. -/
def Directs (line number : List Char) : Prop :=
  ∃ lead fields file more rest, line = lead ++ (".loc".toList ++ fields) ∧
    (∀ c ∈ lead, isBlank c = true) ∧ IsField fields file more ∧ IsField more number rest

/-- The text starts with a blank. -/
private theorem getD_isBlank_iff {text : List Char} :
    (text.head?.map isBlank).getD false = true ↔ ∃ c rest, text = c :: rest ∧ isBlank c = true := by
  cases text with
  | nil => simp
  | cons c rest => simp

/-- A field is read by skipping blanks and taking digits. -/
theorem isField_iff {text digits rest : List Char} :
    IsField text digits rest ↔ (text.head?.map isBlank).getD false = true ∧
      Digit.span (text.dropWhile isBlank) = (digits, rest) ∧ digits ≠ [] := by
  rw [Digit.span, Prod.mk.injEq]
  constructor
  · rintro ⟨gap, rfl, ⟨nonempty, blank⟩, run, stops⟩
    have skipped : (gap ++ (digits ++ rest)).dropWhile isBlank = digits ++ rest :=
      dropWhile_run blank (run.stops (fun c => Digit.isBlank_of_isDigit) rest)
    rw [skipped, takeWhile_run_append run.2 stops, dropWhile_run run.2 stops]
    refine ⟨getD_isBlank_iff.mpr ?_, ⟨rfl, rfl⟩, run.1⟩
    cases gap with
    | nil => exact absurd rfl nonempty
    | cons c more => exact ⟨c, _, rfl, blank c List.mem_cons_self⟩
  · rintro ⟨spaced, ⟨rfl, rfl⟩, nonempty⟩
    obtain ⟨c, more, rfl, blank⟩ := getD_isBlank_iff.mp spaced
    refine ⟨(c :: more).takeWhile isBlank, ?_, ⟨?_, fun _ => List.mem_takeWhile_imp⟩,
      ⟨nonempty, fun _ => List.mem_takeWhile_imp⟩, stops_dropWhile _⟩
    · rw [List.takeWhile_append_dropWhile, List.takeWhile_append_dropWhile]
    · rw [List.takeWhile_cons_of_pos blank]
      exact List.cons_ne_nil _ _

/-- **The reader of line directives** finds the number of exactly the lines that have one. -/
theorem directive?_eq_some_iff {line number : List Char} :
    directive? line = some number ↔ Directs line number := by
  rw [directive?]
  dsimp only
  constructor
  · intro h
    split_ifs at h with word spaced
    obtain rfl := Option.some.inj h
    simp only [Bool.and_eq_true, Bool.not_eq_true', List.isEmpty_eq_false_iff] at spaced
    obtain ⟨⟨⟨first, file⟩, second⟩, number⟩ := spaced
    obtain ⟨fields, body⟩ := List.isPrefixOf_iff_prefix.mp word
    have hfields : (line.dropWhile isBlank).drop 4 = fields := by
      rw [← body]
      rfl
    rw [hfields] at first file second number ⊢
    refine ⟨line.takeWhile isBlank, fields, _, _, _, ?_, fun _ => List.mem_takeWhile_imp,
      isField_iff.mpr ⟨first, rfl, file⟩, isField_iff.mpr ⟨second, rfl, number⟩⟩
    rw [body, List.takeWhile_append_dropWhile]
  · rintro ⟨lead, fields, file, more, rest, rfl, blank, first, second⟩
    have body : (lead ++ (".loc".toList ++ fields)).dropWhile isBlank = ".loc".toList ++ fields :=
      dropWhile_run blank (stops_cons.mpr (by decide))
    have word : ".loc".toList.isPrefixOf (".loc".toList ++ fields) = true :=
      List.isPrefixOf_iff_prefix.mpr (List.prefix_append _ _)
    have hfields : (".loc".toList ++ fields).drop 4 = fields := rfl
    obtain ⟨spacedFile, hfile, file_ne⟩ := isField_iff.mp first
    obtain ⟨spacedNumber, hnumber, number_ne⟩ := isField_iff.mp second
    rw [body, if_pos word, hfields, hfile]
    dsimp only
    rw [hnumber]
    exact if_pos (by simp [spacedFile, spacedNumber, file_ne, number_ne])

/-- A line has one number at most. -/
theorem Directs.unique {line number other : List Char} (h : Directs line number)
    (h' : Directs line other) : number = other :=
  Option.some.inj ((directive?_eq_some_iff.mpr h).symm.trans (directive?_eq_some_iff.mpr h'))

theorem directive?_eq_none_iff {line : List Char} :
    directive? line = none ↔ ∀ number, ¬Directs line number := by
  simp only [Option.eq_none_iff_forall_ne_some, ne_eq, directive?_eq_some_iff]

/-! ### Addressed lines -/

/-- A text is at most one blank and then the other text, which has no blank to give. -/
def IsIndented (text rest : List Char) : Prop :=
  (∃ c, isBlank c = true ∧ text = c :: rest) ∨ text = rest ∧ Stops isBlank rest

/-- The line has an address and a text: blanks, the hexadecimal digits of the address, a colon, at
most one blank and the text. -/
def Addresses (line digits text : List Char) : Prop :=
  ∃ lead after, line = lead ++ (digits ++ ':' :: after) ∧ (∀ c ∈ lead, isBlank c = true) ∧
    IsRun Digit.isHex digits ∧ IsIndented after text

private theorem isIndented_iff {text rest : List Char} :
    IsIndented text rest ↔ (match text with
      | c :: more => if isBlank c then more else text
      | [] => []) = rest := by
  cases text with
  | nil =>
    simp only [IsIndented, reduceCtorEq, and_false, exists_false, false_or, and_iff_left_iff_imp]
    rintro rfl
    exact nofun
  | cons c more =>
    simp only [IsIndented, List.cons.injEq]
    split_ifs with blank
    · constructor
      · rintro (⟨_, -, -, same⟩ | ⟨rfl, stops⟩)
        · exact same
        · cases blank.symm.trans (stops_cons.mp stops)
      · exact fun same => .inl ⟨c, blank, rfl, same⟩
    · constructor
      · rintro (⟨_, again, rfl, -⟩ | ⟨same, -⟩)
        · exact absurd again blank
        · exact same
      · rintro rfl
        exact .inr ⟨rfl, stops_cons.mpr (Bool.eq_false_iff.mpr blank)⟩

/-- **The reader of addresses** finds the address and the text of exactly the lines that have
them. -/
theorem addressed?_eq_some_iff {line text : List Char} {address : Nat} :
    addressed? line = some (address, text) ↔
      ∃ digits, Addresses line digits text ∧ address = Digit.spelled 16 Digit.hexValue? digits := by
  have class_eq : (fun c => (Digit.hexValue? c).isSome) = Digit.isHex := rfl
  rw [addressed?]
  dsimp only
  rw [class_eq, drop_length_takeWhile]
  constructor
  · intro h
    split at h
    · rename_i after colon
      split_ifs at h with empty
      obtain ⟨rfl, same⟩ := Prod.mk.inj (Option.some.inj h)
      have hex : ∀ c ∈ (line.dropWhile isBlank).takeWhile Digit.isHex, Digit.isHex c = true :=
        fun _ => List.mem_takeWhile_imp
      refine ⟨_, ⟨line.takeWhile isBlank, after, ?_, fun _ => List.mem_takeWhile_imp,
        ⟨by simpa using empty, hex⟩, isIndented_iff.mpr same⟩, Digit.hexNumeral_eq_spelled hex⟩
      rw [← colon, List.takeWhile_append_dropWhile, List.takeWhile_append_dropWhile]
    · cases h
  · rintro ⟨digits, ⟨lead, after, rfl, blank, run, indented⟩, rfl⟩
    have colon : Stops Digit.isHex (':' :: after) := stops_cons.mpr (by decide)
    have body : (lead ++ (digits ++ ':' :: after)).dropWhile isBlank = digits ++ ':' :: after :=
      dropWhile_run blank (run.stops (fun _ => Digit.isBlank_of_isHex) _)
    rw [body, takeWhile_run_append run.2 colon, dropWhile_run run.2 colon]
    refine Eq.trans (if_neg (by simpa using run.1)) (congrArg some (Prod.ext ?_ ?_))
    · exact Digit.hexNumeral_eq_spelled run.2
    · exact isIndented_iff.mp indented

/-! ### What the lines of a text say -/

/-- The source line that is in force at a line: the number of the last directive up to there. -/
inductive InForce (lines : List (List Char)) (index : Nat) : Option Nat → Prop
  | none (silent : ∀ i ≤ index, ∀ line, lines[i]? = some line → ∀ number, ¬Directs line number) :
      InForce lines index none
  | last {i : Nat} {line number : List Char} (upTo : i ≤ index) (found : lines[i]? = some line)
      (directs : Directs line number)
      (silent : ∀ j, i < j → j ≤ index → ∀ line, lines[j]? = some line →
        ∀ number, ¬Directs line number) :
      InForce lines index (some (Digit.spelled 10 Digit.value? number))

/-- What a line of a text is shown as; only in a listing of a binary its form matters. -/
inductive Shows : (binary : Bool) → (line : List Char) → Line → Prop
  | plain {line : List Char} {sourceLine : Option Nat} :
      Shows false line ⟨String.ofList line, none, sourceLine⟩
  | addressed {line digits text : List Char} {sourceLine : Option Nat}
      (form : Addresses line digits text) :
      Shows true line
        ⟨String.ofList text, some (Digit.spelled 16 Digit.hexValue? digits), sourceLine⟩
  | verbatim {line : List Char} {sourceLine : Option Nat}
      (other : ∀ digits text, ¬Addresses line digits text) :
      Shows true line ⟨String.ofList line, none, sourceLine⟩

/-! ### Looking back for a directive -/

/-- The number of the last directive among lines. -/
def force? (lines : List (List Char)) : Option Nat :=
  (lines.reverse.findSome? directive?).map Digit.numeral

theorem force?_concat (lines : List (List Char)) (last : List Char) :
    force? (lines ++ [last]) = ((directive? last).map Digit.numeral).or (force? lines) := by
  rw [force?, force?, List.reverse_append, List.reverse_singleton, List.singleton_append,
    List.findSome?_cons]
  cases directive? last <;> rfl

/-- Looking back from a line finds the source line in force. -/
theorem inForce_force? (lines : List (List Char)) (index : Nat) :
    InForce lines index (force? (lines.take (index + 1))) := by
  have getElem?_take {i : Nat} (upTo : i ≤ index) : (lines.take (index + 1))[i]? = lines[i]? :=
    List.getElem?_take_of_lt (Nat.lt_succ_of_le upTo)
  rw [force?]
  cases found : (lines.take (index + 1)).reverse.findSome? directive? with
  | none =>
    rw [List.findSome?_eq_none_iff] at found
    refine .none fun i upTo line hline => directive?_eq_none_iff.mp (found line ?_)
    rw [← getElem?_take upTo] at hline
    exact List.mem_reverse.mpr (List.mem_of_getElem? hline)
  | some number =>
    obtain ⟨later, line, earlier, cut, directs, silent⟩ := List.findSome?_eq_some_iff.mp found
    have cut : lines.take (index + 1) = earlier.reverse ++ line :: later.reverse := by
      rw [← List.reverse_reverse (lines.take (index + 1)), cut, List.reverse_append,
        List.reverse_cons, List.append_assoc, List.singleton_append]
    have within : earlier.reverse.length ≤ index := by
      have := congrArg List.length cut
      simp only [List.length_take, List.length_append, List.length_cons] at this
      omega
    have hline : lines[earlier.reverse.length]? = some line := by
      rw [← getElem?_take within, cut, List.getElem?_append_right le_rfl, Nat.sub_self]
      rfl
    have directs := directive?_eq_some_iff.mp directs
    have isDigit : ∀ c ∈ number, Digit.isDigit c = true := by
      obtain ⟨_, _, _, _, _, -, -, -, _, -, -, run, -⟩ := directs
      exact run.2
    rw [Option.map_some, Digit.numeral_eq_spelled isDigit]
    refine .last within hline directs fun j after upTo other hother => ?_
    -- A line after it comes from the part that was searched without success.
    rw [← getElem?_take upTo, cut, List.getElem?_append_right after.le,
      List.getElem?_cons, if_neg (by omega)] at hother
    exact directive?_eq_none_iff.mp
      (silent other (List.mem_reverse.mp (List.mem_of_getElem? hother)))

/-! ### The closed form -/

/-- The lines of a listing, each by itself and with what the lines up to it say. -/
def shown (binary : Bool) (lines : List (List Char)) : List Line :=
  lines.mapIdx fun index line => lineOf binary (force? (lines.take (index + 1))) line

theorem long?_eq_none_iff {line : List Char} :
    long? line = none ↔ ∀ number, Directs line number → number.length ≤ Json.integerLimit := by
  simp only [← directive?_eq_some_iff]
  rw [long?]
  cases directive? line <;> simp [Option.filter]

private theorem parseFrom_eq {binary : Bool} {rest : List (List Char)}
    (short : ∀ line ∈ rest, long? line = none) (before : List (List Char)) (done : List Line) :
    parseFrom binary (force? before) done rest = .ok (done.reverse ++ rest.mapIdx fun index line =>
      lineOf binary (force? (before ++ rest.take (index + 1))) line) := by
  induction rest generalizing before done with
  | nil => simp [parseFrom]
  | cons line rest ih =>
    have hshort := short line List.mem_cons_self
    have ih := ih (fun other hother => short other (List.mem_cons_of_mem line hother))
      (before ++ [line])
    simp only [List.append_assoc, List.singleton_append] at ih
    rw [parseFrom, List.mapIdx_cons]
    cases found : directive? line with
    | none =>
      have same : force? (before ++ [line]) = force? before := by rw [force?_concat, found]; rfl
      dsimp only
      rw [← same, ih]
      simp
    | some number =>
      have changed : force? (before ++ [line]) = some (Digit.numeral number) := by
        rw [force?_concat, found]; rfl
      have hnumber : ¬Json.integerLimit < number.length := by
        have := long?_eq_none_iff.mp hshort number (directive?_eq_some_iff.mp found)
        omega
      dsimp only
      rw [if_neg hnumber, ← changed, ih]
      simp

/-- **The closed form of a listing.** -/
theorem parse_eq_ok_iff {binary : Bool} {text : List Char} {lines : List Line} :
    parse binary text = .ok lines ↔
      (∀ line ∈ Lines.split text, long? line = none) ∧ shown binary (Lines.split text) = lines := by
  have closed (short : ∀ line ∈ Lines.split text, long? line = none) :
      parse binary text = .ok (shown binary (Lines.split text)) := parseFrom_eq short [] []
  constructor
  · intro h
    have short : (Lines.split text).findSome? long? = none := by
      refine Option.eq_none_iff_forall_ne_some.mpr fun digits long => ?_
      cases h.symm.trans (parseFrom_error_iff.mpr long)
    rw [List.findSome?_eq_none_iff] at short
    exact ⟨short, Except.ok.inj ((closed short).symm.trans h)⟩
  · rintro ⟨short, rfl⟩
    exact closed short

@[simp]
theorem length_shown (binary : Bool) (lines : List (List Char)) :
    (shown binary lines).length = lines.length := List.length_mapIdx

theorem getElem?_shown (binary : Bool) (lines : List (List Char)) (index : Nat) :
    (shown binary lines)[index]? =
      lines[index]?.map (lineOf binary (force? (lines.take (index + 1)))) := List.getElem?_mapIdx

@[simp]
theorem sourceLine_lineOf (binary : Bool) (sourceLine : Option Nat) (line : List Char) :
    (lineOf binary sourceLine line).sourceLine = sourceLine := by
  rw [lineOf]
  split <;> rfl

/-- The source lines do not depend on whether the listing is that of a binary. -/
theorem map_sourceLine_shown (binary : Bool) (lines : List (List Char)) :
    (shown binary lines).map Line.sourceLine =
      lines.mapIdx fun index _ => force? (lines.take (index + 1)) := by
  refine List.ext_getElem? fun index => ?_
  rw [List.getElem?_map, getElem?_shown, List.getElem?_mapIdx, Option.map_map]
  simp only [Function.comp_def, sourceLine_lineOf]

theorem shows_lineOf (binary : Bool) (sourceLine : Option Nat) (line : List Char) :
    Shows binary line (lineOf binary sourceLine line) := by
  cases binary with
  | false => exact .plain
  | true =>
    rw [lineOf, if_pos rfl]
    cases found : addressed? line with
    | none =>
      refine .verbatim fun digits text form => ?_
      cases found.symm.trans (addressed?_eq_some_iff.mpr ⟨digits, form, rfl⟩)
    | some form =>
      obtain ⟨address, text⟩ := form
      obtain ⟨digits, form, rfl⟩ := addressed?_eq_some_iff.mp found
      exact .addressed form

/-- **The lines of a listing.** If no directive has a number of too many digits, a listing has one
line for each line of its text, in order: the source line is that of the last directive up to the
line, whether the listing is that of a binary or not, and the address and the text are those of the
form of the line. -/
theorem parse_positions {text : List Char}
    (short : ∀ line ∈ Lines.split text, ∀ number, Directs line number →
      number.length ≤ Json.integerLimit) :
    (∀ binary, ∃ lines, parse binary text = .ok lines ∧
      lines.length = (Lines.split text).length ∧
      ∀ index line, (Lines.split text)[index]? = some line → ∃ shown, lines[index]? = some shown ∧
        InForce (Lines.split text) index shown.sourceLine ∧ Shows binary line shown) ∧
    (parse true text).map (List.map Line.sourceLine) =
      (parse false text).map (List.map Line.sourceLine) := by
  have closed (binary : Bool) : parse binary text = .ok (shown binary (Lines.split text)) :=
    parse_eq_ok_iff.mpr ⟨fun line hline => long?_eq_none_iff.mpr (short line hline), rfl⟩
  refine ⟨fun binary => ⟨_, closed binary, length_shown .., fun index line hline => ?_⟩, ?_⟩
  · have here := getElem?_shown binary (Lines.split text) index
    rw [hline, Option.map_some] at here
    refine ⟨_, here, ?_, shows_lineOf ..⟩
    rw [sourceLine_lineOf]
    exact inForce_force? (Lines.split text) index
  · rw [closed true, closed false]
    exact congrArg Except.ok ((map_sourceLine_shown ..).trans (map_sourceLine_shown ..).symm)

/-- In the listing of a binary, the second line has an address and the source line of the first. -/
theorem parse_positions_addressed :
    let text := ".loc 1 7 is_stmt 1\n 1F: nop\n".toList
    (∀ line ∈ Lines.split text, ∀ number, Directs line number →
      number.length ≤ Json.integerLimit) ∧
    ∃ lines, parse true text = .ok lines ∧ lines.length = (Lines.split text).length ∧
      ∃ shown, lines[1]? = some shown ∧ InForce (Lines.split text) 1 shown.sourceLine ∧
        Shows true " 1F: nop".toList shown := by
  intro text
  have short : ∀ line ∈ Lines.split text, ∀ number, Directs line number →
      number.length ≤ Json.integerLimit := by
    simp only [← directive?_eq_some_iff]
    decide
  have second : (Lines.split text)[1]? = some " 1F: nop".toList := by decide
  obtain ⟨lines, parsed, length, positions⟩ := (parse_positions short).1 true
  exact ⟨short, lines, parsed, length, positions 1 _ second⟩

example : parse true ".loc 1 7 is_stmt 1\n 1F: nop\n".toList =
    .ok [⟨".loc 1 7 is_stmt 1", none, some 7⟩, ⟨"nop", some 31, some 7⟩] := by decide

end Listing

/-! ### Rendered lines -/

namespace Lines

private theorem isBoundary_of_mem_splitFrom {line text : List Char}
    (started : ∀ c ∈ line, isBoundary c = false) :
    ∀ piece ∈ splitFrom line text, ∀ c ∈ piece, isBoundary c = false := by
  have closed {line : List Char} {pieces : List (List Char)}
      (started : ∀ c ∈ line, isBoundary c = false)
      (ih : ∀ piece ∈ pieces, ∀ c ∈ piece, isBoundary c = false) :
      ∀ piece ∈ line.reverse :: pieces, ∀ c ∈ piece, isBoundary c = false :=
    List.forall_mem_cons.mpr ⟨fun c hc => started c (List.mem_reverse.mp hc), ih⟩
  fun_induction splitFrom line text with
  | case1 line empty => exact nofun
  | case2 line nonempty => exact closed started nofun
  | case3 line rest ih => exact closed started (ih nofun)
  | case4 line c rest notPair boundary ih => exact closed started (ih nofun)
  | case5 line c rest notPair inner ih =>
    exact ih (List.forall_mem_cons.mpr ⟨Bool.eq_false_iff.mpr inner, started⟩)

/-- The lines of a text hold none of the characters that end lines. -/
theorem isBoundary_of_mem_split {text line : List Char} (h : line ∈ split text) :
    ∀ c ∈ line, isBoundary c = false :=
  isBoundary_of_mem_splitFrom (List.forall_mem_nil _) line h

end Lines

namespace Digit

private theorem newline_not_mem_digitsFrom (measure n : Nat) :
    '\n' ∉ digitsFrom 16 measure n := by
  have digit : ∀ d < 16, hexDigit d ≠ '\n' := by decide
  induction measure generalizing n with
  | zero => exact List.not_mem_nil
  | succ measure ih =>
    rw [digitsFrom, List.mem_cons, not_or]
    refine ⟨(digit (n % 16) (Nat.mod_lt n (by decide))).symm, ?_⟩
    split_ifs
    · exact List.not_mem_nil
    · exact ih (n / 16)

theorem newline_not_mem_padLeft_hex (width n : Nat) :
    '\n' ∉ (padLeft width '0' (hex n)).toList := by
  rw [padLeft, hex, String.toList_append, String.toList_ofList, String.toList_ofList,
    List.mem_append, List.mem_reverse, not_or]
  refine ⟨fun h => ?_, newline_not_mem_digitsFrom _ n⟩
  cases List.eq_of_mem_replicate h

end Digit

namespace Listing

/-- A line is rendered without a newline unless its text has one. -/
theorem newline_not_mem_render {line : Line} (h : '\n' ∉ line.text.toList) :
    '\n' ∉ line.render.toList := by
  have address (address : Int) : '\n' ∉ (addressText address).toList := by
    rw [addressText]
    split_ifs
    · rw [String.toList_append, List.mem_append, not_or]
      exact ⟨by decide, Digit.newline_not_mem_padLeft_hex 7 _⟩
    · exact Digit.newline_not_mem_padLeft_hex 8 _
  rw [Line.render]
  split
  · simp only [String.toList_append, List.mem_append, not_or]
    exact ⟨⟨⟨by decide, address _⟩, by decide⟩, h⟩
  · exact h

/-- A text that is shown is part of the line. -/
theorem mem_of_mem_text {binary : Bool} {sourceLine : Option Nat} {line : List Char} {c : Char}
    (h : c ∈ (lineOf binary sourceLine line).text.toList) : c ∈ line := by
  have shows := shows_lineOf binary sourceLine line
  generalize lineOf binary sourceLine line = shown at h shows
  cases shows with
  | plain | verbatim => rwa [String.toList_ofList] at h
  | addressed form =>
    obtain ⟨lead, after, rfl, -, -, ⟨_, -, rfl⟩ | ⟨rfl, -⟩⟩ := form <;>
      rw [String.toList_ofList] at h <;> simp [h]

/-- The lines of a listing are rendered without newlines. -/
theorem newline_not_mem_render_of_parse {binary : Bool} {text : List Char} {lines : List Line}
    (parsed : parse binary text = .ok lines) {line : Line} (h : line ∈ lines) :
    '\n' ∉ line.render.toList := by
  obtain ⟨-, rfl⟩ := parse_eq_ok_iff.mp parsed
  obtain ⟨index, hindex, rfl⟩ := List.mem_mapIdx.mp h
  refine newline_not_mem_render fun newline => ?_
  have boundary :=
    Lines.isBoundary_of_mem_split (List.getElem_mem hindex) _ (mem_of_mem_text newline)
  revert boundary
  decide

/-- From the first directive on, every line belongs to a source line. -/
theorem exists_sourceLine_of_directs {binary : Bool} {text line number : List Char}
    {lines : List Line} (parsed : parse binary text = .ok lines) {i j : Nat}
    (found : (Lines.split text)[i]? = some line) (directs : Directs line number) (from_ : i ≤ j)
    {later : Line} (there : lines[j]? = some later) : ∃ source, later.sourceLine = some source := by
  obtain ⟨-, rfl⟩ := parse_eq_ok_iff.mp parsed
  rw [getElem?_shown, Option.map_eq_some_iff] at there
  obtain ⟨_, -, rfl⟩ := there
  rw [sourceLine_lineOf]
  have force := inForce_force? (Lines.split text) j
  generalize force? ((Lines.split text).take (j + 1)) = source at force
  cases force with
  | none silent => exact absurd directs (silent i from_ line found number)
  | last => exact ⟨_, rfl⟩

end Listing

end ArtifactLens
