import ArtifactLens.Proofs.Path
import ArtifactLens.Settings

/-!
# Configured paths

A configured text takes four steps to its path: the root is filled in for every placeholder, a home
directory for a tilde at the start, what is still relative is put below the root, and the result is
brought into normal form.

* **Filling makes no placeholder** (`Placeholder.not_infix_fill`), not even one that begins before
  a root that was filled in or ends behind it, since the root starts with a slash and a placeholder
  holds none.
* **Resolved paths are canonical** (`Host.resolve_canonical`): they start at a root, have no `.` and
  no `..`, hold no placeholder, and their texts are resolved to themselves. No step undoes what a
  step before it has done, as long as no dollar sign comes in with a root or a home directory.
* **A placeholder before a relative path changes nothing if and only if the root has a name**
  (`Host.resolve_placeholder_eq_iff`). At the root directory itself, its slash and the one behind
  the placeholder are two, and two slashes are another root; from there, they are three, and lead
  back to the first (`Host.anchorBelow`).
-/

namespace ArtifactLens

namespace Placeholder

variable {root source mark : List Char}

theorem slash_not_mem : '/' ∉ text.toList := by decide

private theorem toList_text : text.toList = '$' :: text.toList.tail := by decide

/-- Where a placeholder stands, a dollar sign does. -/
theorem dollar_mem (h : text.toList <:+: source) : '$' ∈ source := by
  rw [toList_text] at h
  exact h.subset List.mem_cons_self

/-- A placeholder gives way to the root. -/
theorem fill_text_append (root rest : List Char) :
    fill root (text.toList ++ rest) = root ++ fill root rest := by
  have tail : text.toList.tail.length = text.length - 1 := by decide
  have found : text.toList.isPrefixOf ('$' :: (text.toList.tail ++ rest)) = true :=
    List.isPrefixOf_iff_prefix.mpr ⟨rest, by rw [← List.cons_append, ← toList_text]⟩
  rw [toList_text, List.cons_append, fill, if_pos found, ← tail, List.drop_left]

/-- A text without placeholders stays as it is. -/
theorem fill_eq_self (h : ¬text.toList <:+: source) (root : List Char) :
    fill root source = source := by
  induction source with
  | nil => rw [fill]
  | cons c rest ih =>
    rw [List.infix_cons_iff, not_or] at h
    rw [fill, if_neg (mt List.isPrefixOf_iff_prefix.mp h.1), ih h.2]

/-- A root that is filled in starts with a slash; so what starts the filled text without a slash
started the text before. -/
private theorem prefix_of_prefix_fill (rooted : root.head? = some '/') (slashless : '/' ∉ mark)
    (h : mark <+: fill root source) : mark <+: source := by
  obtain ⟨below, rfl⟩ := List.head?_eq_some_iff.mp rooted
  induction source generalizing mark with
  | nil => rwa [fill] at h
  | cons c rest ih =>
    rw [fill] at h
    split_ifs at h with found
    · obtain rfl | ⟨_, rfl, -⟩ := List.prefix_cons_iff.mp h
      · exact List.nil_prefix
      · exact absurd List.mem_cons_self slashless
    · obtain rfl | ⟨others, rfl, hothers⟩ := List.prefix_cons_iff.mp h
      · exact List.nil_prefix
      · exact List.cons_prefix_cons.mpr
          ⟨rfl, ih (mt (List.mem_cons_of_mem c) slashless) hothers⟩

/-- **Filling makes no placeholder**, not even across the bounds of a root. -/
theorem not_infix_fill (rooted : root.head? = some '/') (plain : '$' ∉ root) (source : List Char) :
    ¬text.toList <:+: fill root source := by
  fun_induction fill root source with
  | case1 => decide
  | case2 c rest found ih =>
    -- it would stand in the root, behind it, or across its end
    rw [List.infix_append_iff]
    rintro (inside | behind | ⟨begun, ended, cut, tail, start⟩)
    · exact plain (dollar_mem inside)
    · exact ih behind
    · cases begun with
      | nil => exact ih (cut ▸ start.isInfix)
      | cons d others =>
        -- the dollar sign would stand in the root
        obtain rfl : '$' = d := by
          rw [toList_text] at cut
          exact (List.cons.inj cut).1
        exact plain (tail.subset List.mem_cons_self)
  | case3 c rest found ih =>
    rw [List.infix_cons_iff]
    rintro (start | behind)
    · -- one that starts here and reaches into a root would hold the slash that the root starts with
      have filled : fill root (c :: rest) = c :: fill root rest := by rw [fill, if_neg found]
      rw [← filled] at start
      have before := prefix_of_prefix_fill rooted slash_not_mem start
      exact found (List.isPrefixOf_iff_prefix.mpr before)
    · exact ih behind

/-- A placeholder stands in a text if and only if it stands in one of its names. -/
theorem infix_iff (source : String) :
    text.toList <:+: source.toList ↔
      ∃ name ∈ (Path.ofText source).names, text.toList <:+: name.text.toList := by
  rw [Path.names_ofText]
  exact Path.infix_iff slash_not_mem (by decide) (by decide)

end Placeholder

namespace Path

/-- The path is relative, and its first name starts with a tilde. -/
def startsAtHome (path : Path) : Bool :=
  !path.isAbsolute && path.names.head?.any fun name => name.text.toList.head? == some '~'

theorem startsAtHome_of_isAbsolute {path : Path} (h : path.isAbsolute = true) :
    path.startsAtHome = false := by
  rw [startsAtHome, h]
  rfl

end Path

namespace Host

variable {host : Host} {root path expanded : Path} {name : Name}

theorem absolute_of_isAbsolute (h : path.isAbsolute = true) (host : Host) :
    host.absolute path = path.normalize := by
  rw [absolute, Path.join_of_isAbsolute h]

theorem expandHome_eq_self (h : path.startsAtHome = false) (host : Host) :
    host.expandHome path = .ok path := by
  rw [expandHome]
  split
  · rename_i name rest here names
    have plain : name.text.toList.head? ≠ some '~' := by
      simpa [Path.startsAtHome, Path.isAbsolute, here, names, Anchor.isRooted] using h
    rw [if_neg plain]
  · rfl

/-- The home directory that a path starts at. -/
def homeOf? (host : Host) (path : Path) : Option String :=
  if path.startsAtHome then path.names.head?.bind fun name => host.home? name.text else none

/-- The names of an expanded path are names of the path or of the home directory that it starts
at. -/
theorem mem_expandHome (h : host.expandHome path = .ok expanded) (hname : name ∈ expanded.names) :
    name ∈ path.names ∨
      ∃ home, host.homeOf? path = some home ∧ name ∈ (Path.ofText home).names := by
  rw [expandHome] at h
  split at h
  · rename_i first rest here names
    split_ifs at h with tilde
    · split at h
      · cases h
      · rename_i home found
        split_ifs at h
        obtain rfl := Except.ok.inj h
        obtain hhome | hrest := List.mem_append.mp hname
        · refine .inr ⟨home, ?_, hhome⟩
          have starts : path.startsAtHome = true := by
            simp [Path.startsAtHome, Path.isAbsolute, here, names, Anchor.isRooted, tilde]
          rw [homeOf?, if_pos starts, names]
          exact found
        · exact .inl (names ▸ List.mem_cons_of_mem first hrest)
    · obtain rfl := Except.ok.inj h
      exact .inl hname
  · obtain rfl := Except.ok.inj h
    exact .inl hname

/-- The path that a configured text spells before it is anchored. -/
def filled (root : Path) (value : String) : Path :=
  Path.ofText (String.ofList (Placeholder.fill root.text.toList value.toList))

/-- What resolving comes to below a root. -/
theorem resolve_eq_ok_iff (rooted : root.isAbsolute = true) {value : String} :
    host.resolve root value = .ok path ↔
      ∃ expanded, host.expandHome (filled root value) = .ok expanded ∧
        (root.join expanded).normalize = path := by
  rw [resolve, ← filled]
  cases host.expandHome (filled root value) with
  | error failure => simp
  | ok expanded =>
    simp [absolute_of_isAbsolute (Path.isAbsolute_join rooted expanded)]

/-! ### Resolved paths -/

/-- Nothing that is put together holds a placeholder in a name. -/
theorem placeholder_not_infix_name (rooted : root.isAbsolute = true)
    (plain : '$' ∉ root.text.toList)
    {value : String}
    (plainHome : ∀ home, host.homeOf? (filled root value) = some home → '$' ∉ home.toList)
    (h : host.expandHome (filled root value) = .ok expanded)
    (hname : name ∈ (root.join expanded).names) :
    ¬Placeholder.text.toList <:+: name.text.toList := by
  intro stands
  have dollar {source : String} (hsource : name ∈ (Path.ofText source).names) :
      '$' ∈ source.toList :=
    Placeholder.dollar_mem ((Placeholder.infix_iff source).mpr ⟨name, hsource, stands⟩)
  obtain hroot | hexpanded := Path.mem_join hname
  · exact plain (dollar (by rwa [Path.ofText_text]))
  · obtain hfilled | ⟨home, found, hhome⟩ := mem_expandHome h hexpanded
    · have made := (Placeholder.infix_iff _).mpr ⟨name, hfilled, stands⟩
      rw [String.toList_ofList] at made
      exact Placeholder.not_infix_fill (Path.head?_text_of_isAbsolute rooted) plain _ made
    · exact plainHome home found (dollar hhome)

/-- A normal form that starts at a root and holds no placeholder is resolved to itself. -/
theorem resolve_text (host : Host) (rooted : root.isAbsolute = true)
    (absolute : path.isAbsolute = true) (normal : path.normalize = path)
    (unmarked : ¬Placeholder.text.toList <:+: path.text.toList) :
    host.resolve root path.text = .ok path := by
  have again : filled root path.text = path := by
    rw [filled, Placeholder.fill_eq_self unmarked, String.ofList_toList, Path.ofText_text]
  refine (resolve_eq_ok_iff rooted).mpr ⟨path, ?_, ?_⟩
  · rw [again, expandHome_eq_self (Path.startsAtHome_of_isAbsolute absolute)]
  · rw [Path.join_of_isAbsolute absolute, normal]

/-- **Resolved paths are canonical**, if neither the root nor the home directory that the value
starts at, if it starts at one, holds a dollar sign. -/
theorem resolve_canonical (rooted : root.isAbsolute = true) (plain : '$' ∉ root.text.toList)
    {value : String}
    (plainHome : ∀ home, host.homeOf? (filled root value) = some home → '$' ∉ home.toList)
    (resolved : host.resolve root value = .ok path) :
    path.isAbsolute = true ∧
      (∀ name ∈ path.names, name.text ≠ "." ∧ name.text ≠ "..") ∧
      ¬Placeholder.text.toList <:+: path.text.toList ∧
      host.resolve root path.text = .ok path := by
  obtain ⟨expanded, home, rfl⟩ := (resolve_eq_ok_iff rooted).mp resolved
  have absolute := Path.isAbsolute_join rooted expanded
  have unmarked : ¬Placeholder.text.toList <:+: (root.join expanded).normalize.text.toList := by
    rw [Placeholder.infix_iff, Path.ofText_text]
    rintro ⟨name, hname, stands⟩
    exact placeholder_not_infix_name rooted plain plainHome home (Path.mem_of_mem_normalize hname)
      stands
  refine ⟨absolute, fun name hname => ⟨name.isName.2.1, ?_⟩, unmarked, ?_⟩
  · exact beq_eq_false_iff_ne.mp (Path.isUp_of_mem_normalize absolute hname)
  · exact resolve_text host rooted absolute (Path.normalize_normalize absolute) unmarked

/-- A value with a home directory, nested placeholders, repeated slashes and `..`. -/
theorem resolve_canonical_nested :
    let host : Host := ⟨⟨.root, []⟩, "/h", []⟩
    let root : Path := ⟨.root, [⟨"w", by decide⟩]⟩
    let value := "~/$\x7b" ++ Placeholder.text ++ "workspaceFolder\x7d//../x"
    let path : Path := ⟨.root, [⟨"h", by decide⟩, ⟨"$\x7b", by decide⟩, ⟨"x", by decide⟩]⟩
    host.resolve root value = .ok path ∧
      (∀ name ∈ path.names, name.text ≠ "." ∧ name.text ≠ "..") ∧
      ¬Placeholder.text.toList <:+: path.text.toList ∧
      host.resolve root path.text = .ok path := by
  intro host root value path
  have resolved : host.resolve root value = .ok path := by decide +kernel
  have starts : host.homeOf? (filled root value) = some "/h" := by decide +kernel
  have plainHome : ∀ home, host.homeOf? (filled root value) = some home → '$' ∉ home.toList := by
    intro home found
    obtain rfl := Option.some.inj (starts.symm.trans found)
    decide
  obtain ⟨-, names, unmarked, again⟩ := resolve_canonical rfl (by decide +kernel) plainHome resolved
  exact ⟨resolved, names, unmarked, again⟩

/-! ### Paths below the root -/

/-- A relative path is resolved below the root. -/
theorem resolve_relative (host : Host) (rooted : root.isAbsolute = true) {relative : String}
    (elsewhere : (Path.ofText relative).startsAtHome = false)
    (plain : ¬Placeholder.text.toList <:+: relative.toList) :
    host.resolve root relative = .ok (root.join (Path.ofText relative)).normalize := by
  have unfilled : filled root relative = Path.ofText relative := by
    rw [filled, Placeholder.fill_eq_self plain, String.ofList_toList]
  refine (resolve_eq_ok_iff rooted).mpr ⟨Path.ofText relative, ?_, rfl⟩
  rw [unfilled, expandHome_eq_self elsewhere]

/-- Where a placeholder and a slash lead from a root: where the root has no names, the slash makes
the one kind of root the other. -/
def anchorBelow (root : Path) : Anchor :=
  if root.names = [] then root.anchor.slashed else root.anchor

theorem isRooted_anchorBelow (rooted : root.isAbsolute = true) :
    (anchorBelow root).isRooted = true := by
  rw [anchorBelow]
  split_ifs
  · exact root.anchor.isRooted_slashed
  · exact rooted

theorem filled_placeholder (rooted : root.isAbsolute = true) {relative : String}
    (unrooted : relative.toList.head? ≠ some '/')
    (plain : ¬Placeholder.text.toList <:+: relative.toList) :
    filled root (Placeholder.text ++ "/" ++ relative) =
      ⟨anchorBelow root, (root.join (Path.ofText relative)).names⟩ := by
  have slash : ¬Placeholder.text.toList <:+: '/' :: relative.toList := by
    rw [List.infix_cons_iff, not_or]
    exact ⟨by simp [Placeholder.text], plain⟩
  have text : Placeholder.fill root.text.toList (Placeholder.text ++ "/" ++ relative).toList =
      root.text.toList ++ '/' :: relative.toList := by
    rw [String.toList_append, String.toList_append, List.append_assoc,
      Placeholder.fill_text_append]
    exact congrArg (_ ++ ·) (Placeholder.fill_eq_self slash _)
  have names : Path.namesOf (root.text.toList ++ '/' :: relative.toList) =
      (root.join (Path.ofText relative)).names := by
    rw [Path.namesOf_append, ← Path.names_ofText, Path.ofText_text, ← Path.names_ofText,
      Path.join_of_here (Path.anchor_ofText unrooted)]
  have anchor : Anchor.ofText (root.text.toList ++ '/' :: relative.toList) = anchorBelow root := by
    -- the names of the root, if it has any, keep its own slashes apart from the one behind it
    rw [Path.toList_text_of_isAbsolute rooted, List.append_assoc, anchorBelow]
    split_ifs with bare
    · rw [bare]
      exact root.anchor.ofText_slashed unrooted
    · exact root.anchor.ofText_append (Path.head?_spell_ne fun none => absurd none bare)
  rw [filled, text, ← names, ← anchor, Path.ofText_eq, String.toList_ofList]

/-- A placeholder and a slash before a relative path lead below the root too. -/
theorem resolve_placeholder (host : Host) (rooted : root.isAbsolute = true) {relative : String}
    (unrooted : relative.toList.head? ≠ some '/')
    (plain : ¬Placeholder.text.toList <:+: relative.toList) :
    host.resolve root (Placeholder.text ++ "/" ++ relative) =
      .ok ⟨anchorBelow root, (root.join (Path.ofText relative)).normalize.names⟩ := by
  have below := filled_placeholder rooted unrooted plain
  have absolute : (filled root (Placeholder.text ++ "/" ++ relative)).isAbsolute = true := by
    rw [below, Path.isAbsolute, isRooted_anchorBelow rooted]
  refine (resolve_eq_ok_iff rooted).mpr
    ⟨_, expandHome_eq_self (Path.startsAtHome_of_isAbsolute absolute) host, ?_⟩
  rw [Path.join_of_isAbsolute absolute, below,
    Path.normalize_anchor (isRooted_anchorBelow rooted) (Path.isAbsolute_join rooted _)]

theorem anchorBelow_eq_iff : anchorBelow root = root.anchor ↔ root.names ≠ [] := by
  rw [anchorBelow]
  split_ifs with bare
  · exact iff_of_false root.anchor.slashed_ne (not_not_intro bare)
  · exact iff_of_true rfl bare

end Host

namespace Settings

variable {host : Host} {root : Path} {configured : Settings}

/-- The settings with one text for the output directory and the directory of the database. -/
def within (configured : Settings) (directory : String) : Settings :=
  { configured with outputDir := directory, databaseDir := directory }

theorem places_within {directory : String} {path : Path}
    (found : configured.projectRoot host = .ok root)
    (resolved : host.resolve root directory = .ok path) :
    (configured.within directory).places host =
      .ok ⟨root, path, path.join (Path.ofText databaseName)⟩ := by
  have same : (configured.within directory).projectRoot host = .ok root := found
  rw [places, same]
  simp only [within, resolved]

end Settings

/-- **A placeholder before a relative path changes nothing if and only if the root has a name.** -/
theorem Host.resolve_placeholder_eq_iff (host : Host) {root : Path}
    (rooted : root.isAbsolute = true) {relative : String}
    (unrooted : relative.toList.head? ≠ some '/')
    (elsewhere : (Path.ofText relative).startsAtHome = false)
    (plain : ¬Placeholder.text.toList <:+: relative.toList) :
    host.resolve root relative = .ok (root.join (Path.ofText relative)).normalize ∧
      (host.resolve root (Placeholder.text ++ "/" ++ relative) = host.resolve root relative ↔
        root.names ≠ []) ∧
      ∀ configured : Settings, configured.projectRoot host = .ok root →
        ((configured.within (Placeholder.text ++ "/" ++ relative)).places host =
          (configured.within relative).places host ↔ root.names ≠ []) := by
  have direct := host.resolve_relative rooted elsewhere plain
  have filled := host.resolve_placeholder rooted unrooted plain
  have anchor : (root.join (Path.ofText relative)).normalize.anchor = root.anchor := by
    rw [Path.join_of_here (Path.anchor_ofText unrooted)]
    rfl
  have same : (⟨anchorBelow root, (root.join (Path.ofText relative)).normalize.names⟩ : Path) =
      (root.join (Path.ofText relative)).normalize ↔ root.names ≠ [] := by
    rw [← anchorBelow_eq_iff, ← anchor]
    constructor
    · exact congrArg Path.anchor
    · intro h
      rw [h]
  refine ⟨direct, ?_, fun configured found => ?_⟩
  · rw [direct, filled, Except.ok.injEq, same]
  · rw [Settings.places_within found direct, Settings.places_within found filled, Except.ok.injEq,
      Settings.Places.mk.injEq, ← same]
    constructor
    · exact fun h => h.2.1
    · intro h
      rw [h]
      exact ⟨rfl, rfl, rfl⟩

/-- Below the root `/w`, both ways lead to `/b`. -/
theorem Host.resolve_placeholder_eq_iff_below :
    let host : Host := ⟨⟨.root, []⟩, "/", []⟩
    let root : Path := ⟨.root, [⟨"w", by decide⟩]⟩
    let configured : Settings := { root }
    host.resolve root "..//./b" = .ok ⟨.root, [⟨"b", by decide⟩]⟩ ∧
      host.resolve root (Placeholder.text ++ "/" ++ "..//./b") = host.resolve root "..//./b" ∧
      (configured.within (Placeholder.text ++ "/" ++ "..//./b")).places host =
        (configured.within "..//./b").places host := by
  intro host root configured
  have rooted : root.isAbsolute = true := rfl
  have unrooted : "..//./b".toList.head? ≠ some '/' := by decide
  obtain ⟨direct, same, places⟩ := host.resolve_placeholder_eq_iff rooted unrooted
    (by decide +kernel) (by decide +kernel)
  exact ⟨direct.trans (by decide +kernel), same.mpr (by decide),
    (places configured (by decide +kernel)).mpr (by decide)⟩

/-- **At the root directory, a placeholder leads to another root.** -/
theorem Host.resolve_placeholder_root :
    let host : Host := ⟨⟨.root, []⟩, "/", []⟩
    host.resolve ⟨.root, []⟩ (Placeholder.text ++ "/" ++ "x") =
        .ok ⟨.doubleRoot, [⟨"x", by decide⟩]⟩ ∧
      host.resolve ⟨.root, []⟩ "x" = .ok ⟨.root, [⟨"x", by decide⟩]⟩ := by
  decide +kernel

end ArtifactLens
