import ArtifactLens.Proofs.FileSystem

/-!
# The way to a place

What can be found at a place depends on what stands on the way to it. **There are two ways of
interest**: where directories stand on the whole way (`FileSystem.IsClear`), what is found is what
stands at the place; and where the way is clear up to a file (`FileSystem.IsShut`), nothing is found
or made beyond it (`FileSystem.makeDirectory_eq`).

Writing a file leads from one of the two to one of the two. A file in the place of a directory on
the way shuts the place off for good (`FileSystem.IsShut.write`). Any other file leaves the way
clear, and leaves what is at the place, if it is not written there itself
(`FileSystem.Keeps.write`); but where nothing is, a directory may be made on the way to a file
below (`FileSystem.at?_write_or`).
-/

namespace ArtifactLens

namespace FileSystem

variable {host : Host} {fs later last : FileSystem} {place : Location}

/-! ### The way to a place -/

/-- The first location is on the way to the second. -/
def IsOnWay (above place : Location) : Prop := above <+: place ∧ above ≠ place

theorem IsOnWay.trans {a b c : Location} (hab : IsOnWay a b) (hbc : b <+: c) : IsOnWay a c := by
  refine ⟨hab.1.trans hbc, ?_⟩
  rintro rfl
  exact hab.2 (hab.1.eq_of_length_le hbc.length_le)

/-- A file stands at a location. -/
def IsFile (fs : FileSystem) (place : Location) : Prop :=
  ∃ content modified denied, fs.at? place = some (.file content modified denied)

/-- Directories stand on the whole way to a place. -/
def IsClear (fs : FileSystem) (place : Location) : Prop :=
  ∀ above, IsOnWay above place → ∃ modified, fs.at? above = some (.directory modified)

/-- A file stands on the way to a place, where the way to the file is clear. -/
def IsShut (fs : FileSystem) (place : Location) : Prop :=
  ∃ above, IsOnWay above place ∧ fs.IsClear above ∧ fs.IsFile above

private theorem isOnWay_iff {above : Location} :
    IsOnWay above place ↔ ∃ depth < place.length, above = place.take depth := by
  constructor
  · rintro ⟨hstart, hne⟩
    refine ⟨above.length, ?_, List.prefix_iff_eq_take.mp hstart⟩
    refine Nat.lt_of_le_of_ne hstart.length_le fun heq => hne ?_
    exact hstart.eq_of_length heq
  · rintro ⟨depth, hdepth, rfl⟩
    refine ⟨List.take_prefix _ _, fun heq => ?_⟩
    have hlength := congrArg List.length heq
    rw [List.length_take, Nat.min_eq_left (Nat.le_of_lt hdepth)] at hlength
    exact Nat.ne_of_lt hdepth hlength

theorem isBlocked_iff : fs.isBlocked place = true ↔ ∃ above, IsOnWay above place ∧
    fs.IsFile above := by
  rw [isBlocked, List.any_eq_true]
  constructor
  · rintro ⟨above, habove, found⟩
    obtain ⟨depth, hdepth, rfl⟩ := List.mem_map.mp habove
    refine ⟨_, isOnWay_iff.mpr ⟨depth, List.mem_range.mp hdepth, rfl⟩, ?_⟩
    match hat : fs.at? (place.take depth) with
    | some (.file content modified denied) => exact ⟨content, modified, denied, hat⟩
    | some (.directory _) | none => simp [hat] at found
  · rintro ⟨above, way, content, modified, denied, hat⟩
    obtain ⟨depth, hdepth, rfl⟩ := isOnWay_iff.mp way
    exact ⟨_, List.mem_map.mpr ⟨depth, List.mem_range.mpr hdepth, rfl⟩, by rw [hat]⟩

theorem IsClear.not_isBlocked (clear : fs.IsClear place) : fs.isBlocked place = false := by
  rw [← Bool.not_eq_true, isBlocked_iff]
  rintro ⟨above, way, content, modified, denied, hat⟩
  obtain ⟨stamp, hdirectory⟩ := clear above way
  cases hat.symm.trans hdirectory

theorem IsClear.of_above {above : Location} (clear : fs.IsClear place) (h : above <+: place) :
    fs.IsClear above := fun other way => clear other (way.trans h)

private theorem walk_of_way {done : Location} {names : List Name}
    (way : ∀ depth < names.length,
      ∃ modified, fs.at? (done ++ names.take depth) = some (.directory modified)) :
    fs.walk done names =
      match fs.at? (done ++ names) with
      | some node => .ok node
      | none => .error .missing := by
  induction names generalizing done with
  | nil =>
    cases hat : fs.at? done with
    | some node => simp only [walk, List.append_nil, hat]
    | none => simp only [walk, List.append_nil, hat]
  | cons name rest ih =>
    obtain ⟨modified, hat⟩ := way 0 (Nat.zero_lt_succ _)
    rw [List.take_zero, List.append_nil] at hat
    have further : ∀ depth < rest.length, ∃ modified,
        fs.at? (done ++ [name] ++ rest.take depth) = some (.directory modified) := by
      intro depth hdepth
      rw [List.append_assoc]
      exact way (depth + 1) (Nat.succ_lt_succ hdepth)
    rw [walk, hat]
    dsimp only
    rw [ih further, List.append_assoc, List.singleton_append]

private theorem walk_of_file {done : Location} {names rest : List Name}
    (way : ∀ depth < names.length,
      ∃ modified, fs.at? (done ++ names.take depth) = some (.directory modified))
    (file : fs.IsFile (done ++ names)) (more : rest ≠ []) :
    fs.walk done (names ++ rest) = .error .notDirectory := by
  induction names generalizing done with
  | nil =>
    obtain ⟨content, modified, denied, hat⟩ := file
    rw [List.append_nil] at hat
    cases rest with
    | nil => exact absurd rfl more
    | cons name rest => rw [List.nil_append, walk, hat]
  | cons name names ih =>
    obtain ⟨modified, hat⟩ := way 0 (Nat.zero_lt_succ _)
    rw [List.take_zero, List.append_nil] at hat
    rw [List.cons_append, walk, hat]
    refine ih (fun depth hdepth => ?_) ?_
    · rw [List.append_assoc]
      exact way (depth + 1) (Nat.succ_lt_succ hdepth)
    · rw [List.append_assoc]
      exact file

/-- A place on a clear way is as its node says. -/
theorem IsClear.inspect_eq {path : Path} (clear : fs.IsClear (locate host path)) :
    fs.inspect host path =
      match fs.at? (locate host path) with
      | some node => .ok node
      | none => .error ⟨.missing, path⟩ := by
  have hwalk : fs.walk [] (locate host path) = _ :=
    walk_of_way fun depth hdepth => clear _ (isOnWay_iff.mpr ⟨depth, hdepth, rfl⟩)
  rw [inspect, hwalk, List.nil_append]
  cases fs.at? (locate host path) <;> rfl

/-- Nothing is found in a place that is shut off. -/
theorem IsShut.inspect_eq {path : Path} (shut : fs.IsShut (locate host path)) :
    fs.inspect host path = .error ⟨.notDirectory, path⟩ := by
  obtain ⟨above, way, clear, file⟩ := shut
  obtain ⟨rest, hrest⟩ := way.1
  have more : rest ≠ [] := by
    rintro rfl
    exact way.2 ((List.append_nil above).symm.trans hrest)
  have hwalk : fs.walk [] (above ++ rest) = .error .notDirectory :=
    walk_of_file (fun depth hdepth => clear _ (isOnWay_iff.mpr ⟨depth, hdepth, rfl⟩)) file more
  rw [inspect, ← hrest, hwalk]

/-- Where something is found the way is clear. -/
theorem isClear_of_inspect {path : Path} {node : Node} (found : fs.inspect host path = .ok node) :
    fs.IsClear (locate host path) ∧ fs.at? (locate host path) = some node := by
  obtain ⟨way, hat⟩ := walk_eq_ok_iff.mp (inspect_eq_ok_iff.mp found)
  refine ⟨fun above habove => ?_, hat⟩
  obtain ⟨depth, hdepth, rfl⟩ := isOnWay_iff.mp habove
  exact way depth hdepth

/-! ### Writing one file -/

section

variable (host) (path : Path) (content : Octets) (modified : Instant)

/-- The files after one more was written. -/
def write (fs : FileSystem) : FileSystem := fs.put host path (.file content modified false)

variable {host path content modified}

theorem write_of_isBlocked (blocked : fs.isBlocked (locate host path) = true) :
    fs.write host path content modified = fs := if_pos blocked

theorem at?_write (free : fs.isBlocked (locate host path) = false) (location : Location) :
    (fs.write host path content modified).at? location =
      if location = locate host path then some (.file content modified false)
      else if locate host path <+: location then none
      else match fs.at? location with
        | some old => some old
        | none => if location <+: locate host path then some (.directory 0) else none := by
  unfold write put
  rw [if_neg (Bool.eq_false_iff.mp free)]
  dsimp only
  by_cases here : location = locate host path
  · rw [if_pos here, if_pos here]
  · rw [if_neg here, if_neg here]
    by_cases below : locate host path <+: location
    · rw [if_pos (List.isPrefixOf_iff_prefix.mpr below), if_pos below]
      rfl
    · rw [if_neg (mt List.isPrefixOf_iff_prefix.mp below), if_neg below]
      cases fs.at? location with
      | some old => rfl
      | none => simp only [List.isPrefixOf_iff_prefix]

/-- What is neither the place of the file nor below it stays. -/
theorem at?_write_of_not_above {location : Location} (h : ¬locate host path <+: location)
    {node : Node} (hat : fs.at? location = some node) :
    (fs.write host path content modified).at? location = some node := by
  cases free : fs.isBlocked (locate host path) with
  | true => rw [write_of_isBlocked free, hat]
  | false =>
    have hne : location ≠ locate host path := by
      rintro rfl
      exact h (List.prefix_refl _)
    rw [at?_write free, if_neg hne, if_neg h, hat]

/-- The way to what is not at the place of the file or below it stays clear. -/
theorem IsClear.write_of_not_above {location : Location} (clear : fs.IsClear location)
    (h : ¬locate host path <+: location) :
    (fs.write host path content modified).IsClear location := by
  intro above way
  obtain ⟨stamp, hat⟩ := clear above way
  exact ⟨stamp, at?_write_of_not_above (fun hbelow => h (hbelow.trans way.1)) hat⟩

/-- A file that is written on a clear way is there. -/
theorem IsClear.write_self (clear : fs.IsClear (locate host path)) (content : Octets)
    (modified : Instant) :
    (fs.write host path content modified).IsClear (locate host path) ∧
      (fs.write host path content modified).at? (locate host path) =
        some (.file content modified false) := by
  constructor
  · intro above way
    obtain ⟨stamp, hat⟩ := clear above way
    refine ⟨stamp, at?_write_of_not_above (fun hbelow => ?_) hat⟩
    exact way.2 (way.1.eq_of_length_le hbelow.length_le)
  · rw [at?_write clear.not_isBlocked, if_pos rfl]

/-- A file that is written on a clear way shuts off what is below. -/
theorem IsClear.write_above (clear : fs.IsClear (locate host path))
    (way : IsOnWay (locate host path) place) :
    (fs.write host path content modified).IsShut place := by
  obtain ⟨there, hat⟩ := clear.write_self content modified
  exact ⟨_, way, there, content, modified, false, hat⟩

/-- What is shut off stays shut off. -/
theorem IsShut.write (shut : fs.IsShut place) :
    (fs.write host path content modified).IsShut place := by
  obtain ⟨above, way, clear, file⟩ := shut
  by_cases hstart : locate host path <+: above
  · have higher : IsOnWay (locate host path) place := by
      refine ⟨hstart.trans way.1, ?_⟩
      rintro rfl
      exact way.2 (way.1.eq_of_length_le hstart.length_le)
    exact (clear.of_above hstart).write_above higher
  · obtain ⟨old, stamp, denied, hat⟩ := file
    exact ⟨above, way, clear.write_of_not_above hstart, old, stamp, denied,
      at?_write_of_not_above hstart hat⟩

end

/-! ### Clear or shut off -/

/-- The way to a place is clear up to the place, or up to a file. -/
def IsSettled (fs : FileSystem) (place : Location) : Prop := fs.IsClear place ∨ fs.IsShut place

theorem IsSettled.write {path : Path} {content : Octets} {modified : Instant}
    (settled : fs.IsSettled place) : (fs.write host path content modified).IsSettled place := by
  obtain clear | shut := settled
  · by_cases above : locate host path <+: place
    · by_cases same : locate host path = place
      · subst same
        exact .inl (clear.write_self _ _).1
      · exact .inr ((clear.of_above above).write_above ⟨above, same⟩)
    · exact .inl (clear.write_of_not_above above)
  · exact .inr shut.write

/-- A file is where it was, unless its place was shut off. -/
def Keeps (place : Location) (fs later : FileSystem) : Prop :=
  later.IsClear place ∧ later.at? place = fs.at? place ∨ later.IsShut place

/-- A file stays, or its place is shut off, when another is written. -/
theorem Keeps.write {path : Path} {content : Octets} {modified : Instant}
    (keeps : Keeps place fs later) (file : fs.IsFile place) (elsewhere : locate host path ≠ place) :
    Keeps place fs (later.write host path content modified) := by
  obtain ⟨clear, same⟩ | shut := keeps
  · by_cases above : locate host path <+: place
    · exact .inr ((clear.of_above above).write_above ⟨above, elsewhere⟩)
    · obtain ⟨old, stamp, denied, hat⟩ := file
      rw [hat] at same
      exact .inl ⟨clear.write_of_not_above above,
        (at?_write_of_not_above above same).trans hat.symm⟩
  · exact .inr shut.write

/-- What is kept is found as it was, or not at all. -/
theorem Keeps.node? {path : Path} (keeps : Keeps (locate host path) fs later)
    (clear : fs.IsClear (locate host path)) :
    later.node? host path = fs.node? host path ∨ later.node? host path = none := by
  obtain ⟨cleared, same⟩ | shut := keeps
  · rw [FileSystem.node?, FileSystem.node?, cleared.inspect_eq, clear.inspect_eq, same]
    exact .inl rfl
  · rw [FileSystem.node?, FileSystem.node?, shut.inspect_eq]
    exact .inr rfl

end FileSystem

end ArtifactLens
