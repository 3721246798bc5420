import ArtifactLens.Host
import Mathlib.Data.List.DropRight
import Mathlib.Data.List.Infix
import Mathlib.Tactic.SplitIfs

/-!
# Paths, their texts and their normal forms

A text is cut at its slashes, and the pieces that are names are the names of its path
(`Path.namesOf`). Everything on texts follows from what a slash does: the names of two texts with a
slash between them are those of the first and then those of the second (`Path.namesOf_append`).

* **Reading back**: the text of a path spells this path (`Path.ofText_text`).
* **Roots**: where a text starts depends on the slashes at its front alone; one slash more makes the
  one kind of root the other (`Anchor.ofText_slashed`).
* **Marks**: a text without slashes stands in a text if and only if it stands in one of its names
  (`Path.infix_iff`).
* **Normal form**: at a root no `..` is left (`Path.isUp_of_mem_normalize`), and what has none is
  its own normal form (`Path.normalize_eq_self`).
* **Climbing**: the normal form of a relative path leads up some directories, and then down some
  names (`Path.climb`, `Path.descent`). From a normal form at a root it leads up and down just so
  (`Path.normalize_join_eq`), but for the root directory, above which there is nothing. So two such
  paths are led to one place if and only if they agree that many levels up
  (`Path.normalize_join_inj`).
* **Early normal forms**: a normal form may be taken of the path that another is joined to
  (`Path.normalize_join`), and hence of what a path is made absolute with (`Host.absolute_join`).
-/

namespace ArtifactLens

/-! ### Separators -/

section Separators

variable {α : Type} {x : α} {mark first second : List α}

/-- What holds no separator stands on one side of it. -/
private theorem infix_append_cons_iff (h : x ∉ mark) :
    mark <:+: first ++ x :: second ↔ mark <:+: first ∨ mark <:+: second := by
  constructor
  · -- what reaches across the separator holds it; what only comes up to it stands on one side
    rw [List.infix_append_iff, List.infix_cons_iff]
    rintro (left | (start | right) | ⟨begun, ended, rfl, tail, start⟩)
    · exact .inl left
    · obtain rfl | ⟨rest, rfl, -⟩ := List.prefix_cons_iff.mp start
      · exact .inl (List.nil_infix)
      · exact absurd List.mem_cons_self h
    · exact .inr right
    · obtain rfl | ⟨rest, rfl, -⟩ := List.prefix_cons_iff.mp start
      · rw [List.append_nil]
        exact .inl tail.isInfix
      · exact absurd (List.mem_append_right begun List.mem_cons_self) h
  · rintro (left | right)
    · exact left.trans (List.prefix_append first (x :: second)).isInfix
    · exact right.trans ((List.suffix_cons x second).trans (List.suffix_append first _)).isInfix

/-- What holds no separator stands in one of the parts that separators join. -/
private theorem infix_intercalate_iff (h : x ∉ mark) (nonempty : mark ≠ [])
    (parts : List (List α)) :
    mark <:+: [x].intercalate parts ↔ ∃ part ∈ parts, mark <:+: part := by
  induction parts with
  | nil => simp [nonempty]
  | cons first rest ih =>
    cases rest with
    | nil => simp
    | cons second others =>
      rw [List.intercalate_cons_cons, List.append_assoc, List.singleton_append,
        infix_append_cons_iff h, ih]
      simp only [List.mem_cons, exists_eq_or_imp]

private theorem not_mem_of_mem_splitOn [DecidableEq α] {text piece : List α}
    (h : piece ∈ text.splitOn x) : x ∉ piece := by
  induction text generalizing piece with
  | nil =>
    rw [List.splitOn_nil, List.mem_singleton] at h
    simp [h]
  | cons c rest ih =>
    rw [List.splitOn_cons_eq_if_modifyHead] at h
    split_ifs at h with hc
    · obtain rfl | hrest := List.mem_cons.mp h
      · exact List.not_mem_nil
      · exact ih hrest
    · cases hcut : rest.splitOn x with
      | nil => exact absurd hcut (List.splitOn_ne_nil x rest)
      | cons head others =>
        rw [hcut, List.modifyHead_cons] at h
        rw [hcut] at ih
        obtain rfl | hothers := List.mem_cons.mp h
        · rw [List.mem_cons, not_or]
          exact ⟨fun same => hc (beq_iff_eq.mpr same.symm), ih List.mem_cons_self⟩
        · exact ih (List.mem_cons_of_mem head hothers)

end Separators

namespace Name

theorem ofText?_text (name : Name) : ofText? name.text = some name := dif_pos name.isName

theorem text_of_ofText? {text : String} {name : Name} (h : ofText? text = some name) :
    name.text = text := by
  rw [ofText?] at h
  split_ifs at h
  rw [← Option.some.inj h]

/-- A name does not start with a slash. -/
theorem head?_text_ne (name : Name) (rest : List Char) :
    (name.text.toList ++ rest).head? ≠ some '/' := by
  obtain ⟨nonempty, -, slashless⟩ := name.isName
  cases htext : name.text.toList with
  | nil => exact absurd (String.toList_eq_nil_iff.mp htext) nonempty
  | cons c others =>
    rintro same
    exact slashless (htext ▸ Option.some.inj same ▸ List.mem_cons_self)

theorem eq_up {name : Name} (h : name.isUp = true) : name = up := by
  obtain ⟨text, isName⟩ := name
  obtain rfl : text = ".." := beq_iff_eq.mp h
  rfl

end Name

/-! ### Where a text starts -/

namespace Anchor

/-- The root that one slash more makes of a root. -/
def slashed : Anchor → Anchor
  | .root => .doubleRoot
  | .here | .doubleRoot => .root

/-- A text starts where its slashes at the front say. -/
theorem ofText_append (anchor : Anchor) {text : List Char} (h : text.head? ≠ some '/') :
    ofText (anchor.text.toList ++ text) = anchor := by
  cases text with
  | nil => cases anchor <;> rfl
  | cons c rest =>
    have hc : c ≠ '/' := fun same => h (congrArg some same)
    cases anchor <;> simp [Anchor.text, ofText, hc]

theorem isRooted_slashed (anchor : Anchor) : anchor.slashed.isRooted = true := by
  cases anchor <;> rfl

theorem slashed_ne (anchor : Anchor) : anchor.slashed ≠ anchor := by cases anchor <;> decide

/-- One slash more makes the one kind of root the other. -/
theorem ofText_slashed (anchor : Anchor) {text : List Char} (h : text.head? ≠ some '/') :
    ofText (anchor.text.toList ++ '/' :: text) = anchor.slashed := by
  cases text with
  | nil => cases anchor <;> rfl
  | cons c rest =>
    have hc : c ≠ '/' := fun same => h (congrArg some same)
    cases anchor <;> simp [Anchor.text, ofText, slashed, hc]

end Anchor

namespace Path

/-! ### The names of a text -/

private theorem piecesFrom_eq (piece text : List Char) :
    piecesFrom piece text = (text.splitOn '/').modifyHead (piece.reverse ++ ·) := by
  induction text generalizing piece with
  | nil => simp [piecesFrom]
  | cons c rest ih =>
    rw [piecesFrom, List.splitOn_cons_eq_if_modifyHead]
    by_cases hc : c = '/'
    · have whole : (rest.splitOn '/').modifyHead ([] ++ ·) = rest.splitOn '/' := by
        cases rest.splitOn '/' <;> rfl
      rw [if_pos hc, if_pos (beq_iff_eq.mpr hc), ih, List.reverse_nil, whole,
        List.modifyHead_cons, List.append_nil]
    · rw [if_neg hc, if_neg (by simpa using hc), ih, List.modifyHead_modifyHead]
      simp [Function.comp_def]

/-- The names that a text spells. -/
def namesOf (text : List Char) : List Name :=
  (text.splitOn '/').filterMap fun piece => Name.ofText? (String.ofList piece)

/-- The path of a text, by its slashes at the front and its names. -/
theorem ofText_eq (text : String) :
    ofText text = ⟨Anchor.ofText text.toList, namesOf text.toList⟩ := by
  have whole : (text.toList.splitOn '/').modifyHead ([] ++ ·) = text.toList.splitOn '/' := by
    cases text.toList.splitOn '/' <;> rfl
  rw [ofText, piecesFrom_eq, List.reverse_nil, whole, namesOf]

theorem names_ofText (text : String) : (ofText text).names = namesOf text.toList := by
  rw [ofText_eq]

@[simp]
theorem namesOf_nil : namesOf [] = [] := by
  rw [namesOf, List.splitOn_nil]
  rfl

/-- **A slash keeps names apart.** -/
theorem namesOf_append (first second : List Char) :
    namesOf (first ++ '/' :: second) = namesOf first ++ namesOf second := by
  rw [namesOf, List.splitOn_append_cons_self, List.filterMap_append]
  rfl

theorem namesOf_slash (text : List Char) : namesOf ('/' :: text) = namesOf text :=
  namesOf_append [] text

theorem namesOf_text (name : Name) : namesOf name.text.toList = [name] := by
  rw [namesOf, List.splitOn_eq_singleton name.isName.2.2, List.filterMap_cons, List.filterMap_nil,
    String.ofList_toList, name.ofText?_text]

/-- The texts of names, joined by slashes. -/
def spell (names : List Name) : List Char :=
  ['/'].intercalate (names.map fun name => name.text.toList)

theorem spell_cons_cons (name next : Name) (rest : List Name) :
    spell (name :: next :: rest) = name.text.toList ++ '/' :: spell (next :: rest) := by
  rw [spell, List.map_cons, List.map_cons, List.intercalate_cons_cons, List.append_assoc,
    List.singleton_append, spell, List.map_cons]

/-- Names that are joined by slashes are read back. -/
theorem namesOf_spell (names : List Name) : namesOf (spell names) = names := by
  induction names with
  | nil => exact namesOf_nil
  | cons name rest ih =>
    cases rest with
    | nil => simp [spell, namesOf_text]
    | cons next others =>
      rw [spell_cons_cons, namesOf_append, namesOf_text, ih, List.singleton_append]

/-- Names that are joined by slashes do not start with one. -/
theorem head?_spell_ne {names : List Name} {text : List Char}
    (h : names = [] → text.head? ≠ some '/') : (spell names ++ text).head? ≠ some '/' := by
  match names with
  | [] => simpa [spell] using h rfl
  | [name] => simpa [spell] using name.head?_text_ne text
  | name :: next :: rest =>
    rw [spell_cons_cons, List.append_assoc]
    exact name.head?_text_ne _

/-! ### Reading back -/

theorem toList_text {path : Path} (h : path ≠ ⟨.here, []⟩) :
    path.text.toList = path.anchor.text.toList ++ spell path.names := by
  have spelled : (path.anchor.text ++ String.intercalate "/" (path.names.map Name.text)).toList =
      path.anchor.text.toList ++ spell path.names := by
    simp [spell, String.toList_intercalate, Function.comp_def]
  have nonempty : path.anchor.text ++ String.intercalate "/" (path.names.map Name.text) ≠ "" := by
    intro empty
    rw [empty, String.toList_empty, eq_comm, List.append_eq_nil_iff] at spelled
    obtain ⟨anchor, names⟩ := path
    have noNames : names = [] := by rw [← namesOf_spell names, spelled.2, namesOf_nil]
    have here : anchor = .here := by
      cases anchor with
      | here => rfl
      | root | doubleRoot => simp [Anchor.text] at spelled
    exact h (by rw [noNames, here])
  rw [text, if_neg nonempty, spelled]

theorem toList_text_of_isAbsolute {path : Path} (h : path.isAbsolute = true) :
    path.text.toList = path.anchor.text.toList ++ spell path.names :=
  toList_text fun here => by
    rw [here] at h
    cases h

/-- The text of a path that starts at a root starts with a slash. -/
theorem head?_text_of_isAbsolute {path : Path} (h : path.isAbsolute = true) :
    path.text.toList.head? = some '/' := by
  rw [toList_text_of_isAbsolute h]
  cases hanchor : path.anchor with
  | here => simp [isAbsolute, hanchor, Anchor.isRooted] at h
  | root | doubleRoot => simp [Anchor.text]

theorem namesOf_anchor (anchor : Anchor) (text : List Char) :
    namesOf (anchor.text.toList ++ text) = namesOf text := by
  cases anchor with
  | here => rfl
  | root => exact namesOf_slash text
  | doubleRoot => exact (namesOf_slash ('/' :: text)).trans (namesOf_slash text)

/-- **The text of a path spells the path.** -/
theorem ofText_text (path : Path) : ofText path.text = path := by
  by_cases h : path = ⟨.here, []⟩
  · subst h
    decide +kernel
  · have start : (spell path.names).head? ≠ some '/' := by
      simpa using @head?_spell_ne path.names [] fun _ => nofun
    rw [ofText_eq, toList_text h, Anchor.ofText_append _ start, namesOf_anchor, namesOf_spell]

/-- A text that is a name spells the path of that one name. -/
theorem ofText_of_isName {text : String} (h : IsName text) :
    ofText text = ⟨.here, [⟨text, h⟩]⟩ := by
  have spelled : Path.text ⟨.here, [⟨text, h⟩]⟩ = text := by
    rw [← String.toList_inj, toList_text (by simp)]
    simp [Anchor.text, spell]
  rw [← ofText_text ⟨.here, [⟨text, h⟩]⟩, spelled]

/-- What does not start with a slash is relative. -/
theorem anchor_ofText {text : String} (h : text.toList.head? ≠ some '/') :
    (ofText text).anchor = .here :=
  Anchor.ofText_append .here h

/-! ### Marks -/

/-- **What holds no slash stands in a text if and only if it stands in one of its names**, a single
dot apart. -/
theorem infix_iff {mark text : List Char} (slashless : '/' ∉ mark) (nonempty : mark ≠ [])
    (undotted : mark ≠ ['.']) :
    mark <:+: text ↔ ∃ name ∈ namesOf text, mark <:+: name.text.toList := by
  have cut := infix_intercalate_iff slashless nonempty (text.splitOn '/')
  rw [List.intercalate_splitOn] at cut
  rw [cut, namesOf]
  constructor
  · rintro ⟨piece, hpiece, stands⟩
    have isName : IsName (String.ofList piece) := by
      refine ⟨fun empty => ?_, fun dot => ?_, ?_⟩
      · rw [String.ofList_eq_empty_iff.mp empty, List.infix_nil] at stands
        exact nonempty stands
      · rw [← String.toList_inj, String.toList_ofList] at dot
        rw [dot] at stands
        exact (List.infix_singleton_iff mark '.').mp stands |>.elim nonempty undotted
      · rw [String.toList_ofList]
        exact not_mem_of_mem_splitOn hpiece
    exact ⟨⟨_, isName⟩, List.mem_filterMap.mpr ⟨piece, hpiece, dif_pos isName⟩, by simpa⟩
  · rintro ⟨name, hname, stands⟩
    obtain ⟨piece, hpiece, named⟩ := List.mem_filterMap.mp hname
    rw [Name.text_of_ofText? named, String.toList_ofList] at stands
    exact ⟨piece, hpiece, stands⟩

/-! ### Joining -/

theorem isAbsolute_join {first : Path} (rooted : first.isAbsolute = true) (second : Path) :
    (first.join second).isAbsolute = true := by
  rw [join]
  split_ifs with h
  · exact h
  · exact rooted

theorem join_of_isAbsolute {second : Path} (h : second.isAbsolute = true) (first : Path) :
    first.join second = second := if_pos h

theorem join_of_here {second : Path} (h : second.anchor = .here) (first : Path) :
    first.join second = { first with names := first.names ++ second.names } := by
  rw [join, isAbsolute, h]
  rfl

theorem mem_join {first second : Path} {name : Name} (h : name ∈ (first.join second).names) :
    name ∈ first.names ∨ name ∈ second.names := by
  rw [join] at h
  split_ifs at h
  · exact .inr h
  · exact List.mem_append.mp h

theorem anchor_of_relative {path : Path} (relative : path.isAbsolute = false) :
    path.anchor = .here := by
  rw [isAbsolute] at relative
  cases hanchor : path.anchor with
  | here => rfl
  | root | doubleRoot =>
    rw [hanchor] at relative
    cases relative

theorem join_assoc (first second third : Path) :
    first.join (second.join third) = (first.join second).join third := by
  cases relative : third.isAbsolute with
  | true =>
    rw [join_of_isAbsolute relative, join_of_isAbsolute relative, join_of_isAbsolute relative]
  | false =>
    have here := anchor_of_relative relative
    rw [join_of_here here, join_of_here here]
    cases absolute : second.isAbsolute with
    | true =>
      have joined : isAbsolute { second with names := second.names ++ third.names } = true :=
        absolute
      rw [join_of_isAbsolute absolute, join_of_isAbsolute joined]
    | false =>
      have between := anchor_of_relative absolute
      have joined : anchor { second with names := second.names ++ third.names } = .here := between
      rw [join_of_here between, join_of_here joined, List.append_assoc]

/-! ### Normal form -/

variable {path : Path} {name : Name}

theorem follow_of_not_isUp {rooted : Bool} {stack : List Name} (h : name.isUp = false) :
    follow rooted stack name = name :: stack := by
  rw [follow.eq_def, if_neg (Bool.eq_false_iff.mp h)]

/-- Which kind of root it is does not matter. -/
theorem normalize_anchor {anchor : Anchor} (rooted : anchor.isRooted = true)
    (h : path.isAbsolute = true) :
    normalize ⟨anchor, path.names⟩ = ⟨anchor, path.normalize.names⟩ := by
  rw [isAbsolute] at h
  simp only [normalize, isAbsolute, rooted, h]

private theorem mem_follow {rooted : Bool} {stack : List Name} {next : Name}
    (h : name ∈ follow rooted stack next) : name = next ∨ name ∈ stack := by
  cases hup : next.isUp with
  | false =>
    rw [follow_of_not_isUp hup] at h
    exact List.mem_cons.mp h
  | true =>
    rw [follow.eq_def, if_pos hup] at h
    cases stack with
    | nil =>
      dsimp only at h
      split_ifs at h
      · exact absurd h List.not_mem_nil
      · exact .inl (List.mem_singleton.mp h)
    | cons top below =>
      dsimp only at h
      split_ifs at h
      · exact List.mem_cons.mp h
      · exact .inr (List.mem_cons_of_mem top h)

/-- A normal form has no names but those of the path. -/
theorem mem_of_mem_normalize (h : name ∈ path.normalize.names) : name ∈ path.names := by
  rw [normalize, List.mem_reverse] at h
  refine List.foldlRecOn (motive := fun stack => name ∈ stack → name ∈ path.names) path.names _
    (fun none => absurd none List.not_mem_nil) (fun stack ih next hnext hname => ?_) h
  obtain rfl | hstack := mem_follow hname
  · exact hnext
  · exact ih hstack

/-- At a root, no `..` comes onto the stack. -/
private theorem isUp_follow {stack : List Name} (h : ∀ name ∈ stack, name.isUp = false)
    (next : Name) : ∀ name ∈ follow true stack next, name.isUp = false := by
  cases hup : next.isUp with
  | false =>
    rw [follow_of_not_isUp hup]
    exact List.forall_mem_cons.mpr ⟨hup, h⟩
  | true =>
    rw [follow.eq_def, if_pos hup]
    cases stack with
    | nil => exact fun _ none => absurd none List.not_mem_nil
    | cons top below =>
      obtain ⟨htop, hbelow⟩ := List.forall_mem_cons.mp h
      dsimp only
      rw [if_neg (Bool.eq_false_iff.mp htop)]
      exact hbelow

/-- At a root, a normal form has no `..`. -/
theorem isUp_of_mem_normalize (rooted : path.isAbsolute = true)
    (h : name ∈ path.normalize.names) : name.isUp = false := by
  rw [normalize, rooted, List.mem_reverse] at h
  exact List.foldlRecOn (motive := fun stack => ∀ name ∈ stack, name.isUp = false) path.names _
    (fun _ none => absurd none List.not_mem_nil) (fun _ ih next _ => isUp_follow ih next) name h

/-- Names that are no `..` are put on the stack one by one. -/
theorem foldl_follow {names : List Name} (h : ∀ name ∈ names, name.isUp = false)
    (rooted : Bool) (stack : List Name) :
    names.foldl (follow rooted) stack = names.reverse ++ stack := by
  induction names generalizing stack with
  | nil => rfl
  | cons name rest ih =>
    obtain ⟨hname, hrest⟩ := List.forall_mem_cons.mp h
    rw [List.foldl_cons, follow_of_not_isUp hname, ih hrest, List.reverse_cons, List.append_assoc,
      List.singleton_append]

/-- A path without `..` is in normal form. -/
theorem normalize_eq_self (h : ∀ name ∈ path.names, name.isUp = false) :
    path.normalize = path := by
  rw [normalize, foldl_follow h, List.append_nil, List.reverse_reverse]

/-- At a root, a normal form is its own normal form. -/
theorem normalize_normalize (rooted : path.isAbsolute = true) :
    path.normalize.normalize = path.normalize :=
  normalize_eq_self fun _ hname => isUp_of_mem_normalize rooted hname

/-! ### Up and down -/

/-- How many directories a relative path leads up. -/
def climb (path : Path) : Nat := (path.normalize.names.takeWhile Name.isUp).length

/-- The names that a relative path leads down after that. -/
def descent (path : Path) : List Name := path.normalize.names.dropWhile Name.isUp

/-- The path some levels up. At the root, it stays there. -/
def above (path : Path) (levels : Nat) : Path := { path with names := path.names.rdrop levels }

/-- From nowhere and from the top of a stack at a root, one name leads to the same, if what was led
up is left open or taken off the stack. -/
private theorem follow_climb {base down : List Name} {levels : Nat}
    (hdown : ∀ name ∈ down, name.isUp = false) (hbase : ∀ name ∈ base, name.isUp = false)
    (name : Name) :
    ∃ down' levels', (∀ name ∈ down', name.isUp = false) ∧
      follow false (down ++ List.replicate levels Name.up) name =
        down' ++ List.replicate levels' Name.up ∧
      follow true (down ++ base.drop levels) name = down' ++ base.drop levels' := by
  cases hup : name.isUp with
  | false =>
    refine ⟨name :: down, levels, List.forall_mem_cons.mpr ⟨hup, hdown⟩, ?_, ?_⟩
    · rw [follow_of_not_isUp hup, List.cons_append]
    · rw [follow_of_not_isUp hup, List.cons_append]
  | true =>
    obtain rfl := Name.eq_up hup
    cases down with
    | cons top below =>
      obtain ⟨htop, hbelow⟩ := List.forall_mem_cons.mp hdown
      refine ⟨below, levels, hbelow, ?_, ?_⟩
      · simp [follow, hup, htop]
      · simp [follow, hup, htop]
    | nil =>
      -- nothing was led down: one side leaves the name open, the other takes a directory off
      refine ⟨[], levels + 1, nofun, ?_, ?_⟩
      · cases levels with
        | zero => simp [follow, hup]
        | succ levels => simp [follow, hup, List.replicate_succ]
      · rw [List.nil_append, List.nil_append]
        cases hrest : base.drop levels with
        | nil =>
          have gone : base.drop (levels + 1) = [] := by rw [← List.tail_drop, hrest, List.tail_nil]
          simp [follow, hup, gone]
        | cons top below =>
          have rest : base.drop (levels + 1) = below := by
            rw [← List.tail_drop, hrest, List.tail_cons]
          have htop := hbase top (List.mem_of_mem_drop (hrest ▸ List.mem_cons_self))
          simp [follow, hup, htop, rest]

private theorem foldl_follow_climb {base : List Name} (hbase : ∀ name ∈ base, name.isUp = false)
    (names : List Name) :
    ∃ down levels, (∀ name ∈ down, name.isUp = false) ∧
      names.foldl (follow false) [] = down ++ List.replicate levels Name.up ∧
      names.foldl (follow true) base = down ++ base.drop levels := by
  induction names using List.reverseRecOn with
  | nil => exact ⟨[], 0, nofun, rfl, rfl⟩
  | append_singleton names name ih =>
    obtain ⟨down, levels, hdown, open', taken⟩ := ih
    rw [List.foldl_concat, List.foldl_concat, open', taken]
    exact follow_climb hdown hbase name

variable {first second : Path}

/-- Joining a relative path at a root goes on with its names where the first path has led. -/
private theorem normalize_join_relative (rooted : first.isAbsolute = true)
    (relative : second.isAbsolute = false) :
    (first.join second).normalize =
      { first with
        names := (second.names.foldl (follow true) (first.names.foldl (follow true) [])).reverse }
    := by
  have absolute : (first.join second).isAbsolute = true := isAbsolute_join rooted second
  rw [normalize, absolute, join_of_here (anchor_of_relative relative), List.foldl_append]

/-- **A normal form may be taken before another path is joined.** -/
theorem normalize_join (rooted : first.isAbsolute = true) (second : Path) :
    (first.normalize.join second).normalize = (first.join second).normalize := by
  cases relative : second.isAbsolute with
  | true => rw [join_of_isAbsolute relative, join_of_isAbsolute relative]
  | false =>
    have again : first.normalize.names.foldl (follow true) [] =
        first.names.foldl (follow true) [] := by
      rw [foldl_follow fun _ => isUp_of_mem_normalize rooted, List.append_nil, normalize, rooted,
        List.reverse_reverse]
    have still : first.normalize.isAbsolute = true := rooted
    rw [normalize_join_relative still relative, normalize_join_relative rooted relative, again]
    rfl

private theorem climb_of_names {levels : Nat} {down : List Name}
    (names : second.normalize.names = List.replicate levels Name.up ++ down)
    (hdown : ∀ name ∈ down, name.isUp = false) :
    second.climb = levels ∧ second.descent = down := by
  have ups : ∀ name ∈ List.replicate levels Name.up, name.isUp = true := by
    intro name hname
    rw [List.eq_of_mem_replicate hname]
    rfl
  have downs (nonempty : 0 < down.length) : ¬(down[0].isUp = true) := by
    rw [hdown _ (List.getElem_mem nonempty)]
    exact Bool.false_ne_true
  constructor
  · rw [climb, names, List.takeWhile_append_of_pos ups, List.takeWhile_eq_nil_iff.mpr downs,
      List.append_nil, List.length_replicate]
  · rw [descent, names, List.dropWhile_append_of_pos ups, List.dropWhile_eq_self_iff.mpr downs]

/-- **A relative path leads up and then down.** -/
theorem normalize_join_eq (rooted : first.isAbsolute = true) (normal : first.normalize = first)
    (relative : second.isAbsolute = false) :
    (first.join second).normalize =
      { first.above second.climb with
        names := (first.above second.climb).names ++ second.descent } := by
  have below : ∀ name ∈ first.names, name.isUp = false := by
    rw [← normal]
    exact fun _ => isUp_of_mem_normalize rooted
  have hbase : ∀ name ∈ first.names.reverse, name.isUp = false :=
    fun name hname => below name (List.mem_reverse.mp hname)
  obtain ⟨down, levels, hdown, opened, taken⟩ := foldl_follow_climb hbase second.names
  have names : second.normalize.names = List.replicate levels Name.up ++ down.reverse := by
    rw [normalize, relative, opened, List.reverse_append, List.reverse_replicate]
  obtain ⟨climb, descent⟩ :=
    climb_of_names names fun name hname => hdown name (List.mem_reverse.mp hname)
  rw [normalize_join_relative rooted relative, foldl_follow below, List.append_nil, taken, above,
    climb, descent, List.rdrop_eq_reverse_drop_reverse, List.reverse_append]

/-- **Two paths are led to one place** by a relative path if and only if they agree as many levels
up as it climbs. -/
theorem normalize_join_inj {third : Path} (rooted : first.isAbsolute = true)
    (normal : first.normalize = first) (rooted' : second.isAbsolute = true)
    (normal' : second.normalize = second) (relative : third.isAbsolute = false) :
    (first.join third).normalize = (second.join third).normalize ↔
      first.above third.climb = second.above third.climb := by
  rw [normalize_join_eq rooted normal relative, normalize_join_eq rooted' normal' relative]
  constructor
  · intro h
    obtain ⟨anchor, names⟩ := Path.mk.inj h
    exact congrArg₂ Path.mk anchor (List.append_cancel_right names)
  · intro h
    rw [h]

end Path

namespace Host

theorem isAbsolute_absolute {host : Host} (rooted : host.workDir.isAbsolute = true) (path : Path) :
    (host.absolute path).isAbsolute = true := Path.isAbsolute_join rooted path

theorem normalize_absolute {host : Host} (rooted : host.workDir.isAbsolute = true) (path : Path) :
    (host.absolute path).normalize = host.absolute path :=
  Path.normalize_normalize (Path.isAbsolute_join rooted path)

/-- **Making a path absolute may be done before another path is joined.** -/
theorem absolute_join {host : Host} (rooted : host.workDir.isAbsolute = true)
    (first second : Path) :
    host.absolute (first.join second) = ((host.absolute first).join second).normalize := by
  rw [absolute, absolute, Path.normalize_join (Path.isAbsolute_join rooted first), Path.join_assoc]

end Host

end ArtifactLens
