import ArtifactLens.FileSystem
import Mathlib.Tactic.SplitIfs

/-!
# Making directories

Making a directory, and with it those above it that are missing, leaves what is there as it was:
every path that led to a node leads to the same node afterwards
(`FileSystem.inspect_makeDirectory`). Nothing stands below a directory that was made
(`FileSystem.makeDirectory_below`), and all that is new is directories
(`FileSystem.keepsFiles_makeDirectory`).
A path leads to a node when directories stand on the whole way (`walk_eq_ok_iff`), and a directory
is only put where no path leads.
-/

namespace ArtifactLens

namespace FileSystem

variable {host : Host} {fs later : FileSystem}

/-- Names lead to a node when directories stand on the whole way and the node at the end. -/
theorem walk_eq_ok_iff {done : Location} {names : List Name} {node : Node} :
    fs.walk done names = .ok node ↔
      (∀ depth < names.length,
        ∃ modified, fs.at? (done ++ names.take depth) = some (.directory modified)) ∧
      fs.at? (done ++ names) = some node := by
  induction names generalizing done with
  | nil =>
    rw [walk]
    cases hat : fs.at? done <;> simp [hat]
  | cons name rest ih =>
    rw [walk, List.length_cons, Nat.forall_lt_succ_left']
    simp only [List.take_zero, List.append_nil, List.take_succ_cons]
    match hat : fs.at? done with
    | some (.directory _) => simp [ih, List.append_assoc]
    | some (.file ..) => simp
    | none => simp

/-- The node that names lead to stands at their end. -/
theorem at?_of_walk {names : List Name} {node : Node} (h : fs.walk [] names = .ok node) :
    fs.at? names = some node := by
  rw [walk_eq_ok_iff] at h
  exact h.2

theorem inspect_eq_ok_iff {path : Path} {node : Node} :
    fs.inspect host path = .ok node ↔ fs.walk [] (locate host path) = .ok node := by
  rw [inspect]
  cases fs.walk [] (locate host path) <;> simp

/-- A path that leads to a node leads through every location on its way. -/
private theorem walk_take {names : List Name} {node : Node} (h : fs.walk [] names = .ok node)
    (depth : Nat) : ∃ above, fs.walk [] (names.take depth) = .ok above := by
  rcases Nat.lt_or_ge depth names.length with hdepth | hdepth
  · rw [walk_eq_ok_iff] at h
    obtain ⟨modified, hat⟩ := h.1 depth hdepth
    refine ⟨.directory modified, ?_⟩
    rw [walk_eq_ok_iff]
    refine ⟨fun less hless => ?_, hat⟩
    have hlt : less < depth := Nat.lt_of_lt_of_le hless (List.length_take_le _ _)
    rw [List.take_take, Nat.min_eq_left (Nat.le_of_lt hlt)]
    exact h.1 less (Nat.lt_trans hlt hdepth)
  · rw [List.take_of_length_le hdepth]
    exact ⟨node, h⟩

/-- What is put where no path leads is not on the way to any node. -/
theorem inspect_put {path other : Path} {new node : Node} {fault : FileFault}
    (missing : fs.inspect host path = .error fault) (found : fs.inspect host other = .ok node) :
    (fs.put host path new).inspect host other = .ok node := by
  rw [inspect_eq_ok_iff] at found ⊢
  have nowhere : ∀ depth, ¬(locate host path).isPrefixOf ((locate host other).take depth) := by
    intro depth hbelow
    obtain ⟨above, habove⟩ := walk_take found (locate host path).length
    rw [List.isPrefixOf_iff_prefix] at hbelow
    rw [← List.prefix_iff_eq_take.mp (hbelow.trans (List.take_prefix _ _)),
      ← inspect_eq_ok_iff, missing] at habove
    cases habove
  have kept : ∀ depth old, fs.at? ((locate host other).take depth) = some old →
      (fs.put host path new).at? ((locate host other).take depth) = some old := by
    intro depth old hold
    have hne : (locate host other).take depth ≠ locate host path := by
      intro heq
      exact nowhere depth (List.isPrefixOf_iff_prefix.mpr (heq ▸ List.prefix_refl _))
    unfold put
    by_cases hblocked : fs.isBlocked (locate host path)
    · simp only [if_pos hblocked, hold]
    · simp only [if_neg hblocked, if_neg hne, if_neg (nowhere depth), hold]
  rw [walk_eq_ok_iff] at found ⊢
  obtain ⟨hway, hend⟩ := found
  refine ⟨fun depth hdepth => ?_, ?_⟩
  · obtain ⟨modified, hat⟩ := hway depth hdepth
    exact ⟨modified, kept depth _ hat⟩
  · have hwhole := kept (locate host other).length node
    rw [List.take_length] at hwhole
    exact hwhole hend

private theorem inspect_makeOne {path other : Path} {node : Node}
    (made : fs.makeOne host path = .ok later) (found : fs.inspect host other = .ok node) :
    later.inspect host other = .ok node := by
  rw [makeOne] at made
  cases missing : fs.inspect host path with
  | ok there => simp [missing] at made
  | error fault =>
    simp only [missing] at made
    split_ifs at made
    obtain rfl := Except.ok.inj made
    exact inspect_put missing found

/-- A directory is there already, or is made by itself, or is made after those above it. -/
private theorem makeWithin_cases {depth : Nat} {path : Path}
    (made : fs.makeWithin host depth path = .ok later) :
    (later = fs ∧ fs.isDirectory host path = true) ∨ fs.makeOne host path = .ok later ∨
      ∃ less between, depth = less + 1 ∧ fs.makeWithin host less path.parent = .ok between ∧
        between.makeOne host path = .ok later := by
  rw [makeWithin.eq_def] at made
  cases one : fs.makeOne host path with
  | ok there =>
    simp only [one] at made
    exact .inr (.inl made)
  | error fault =>
    simp only [one] at made
    split_ifs at made
    · cases depth with
      | zero => cases made
      | succ less =>
        cases above : fs.makeWithin host less path.parent with
        | ok between =>
          simp only [above] at made
          exact .inr (.inr ⟨less, between, rfl, above, made⟩)
        | error fault => simp [above] at made
    · exact .inl ⟨(Except.ok.inj made).symm, ‹_›⟩

private theorem inspect_makeWithin {other : Path} {node : Node} {depth : Nat}
    {fs later : FileSystem} {path : Path} (made : fs.makeWithin host depth path = .ok later)
    (found : fs.inspect host other = .ok node) : later.inspect host other = .ok node := by
  obtain ⟨rfl, -⟩ | one | ⟨less, between, rfl, above, last⟩ := makeWithin_cases made
  · exact found
  · exact inspect_makeOne one found
  · exact inspect_makeOne last (inspect_makeWithin above found)
termination_by depth

/-- Making a directory leaves what is there as it was. -/
theorem inspect_makeDirectory {path other : Path} {node : Node}
    (made : fs.makeDirectory host path = .ok later) (found : fs.inspect host other = .ok node) :
    later.inspect host other = .ok node :=
  inspect_makeWithin made found

/-- A directory that is there already will do. -/
theorem makeDirectory_of_isDirectory {path : Path} (h : fs.isDirectory host path = true) :
    fs.makeDirectory host path = .ok fs := by
  have hexists : fs.makeOne host path = .error ⟨.exists, path⟩ := by
    rw [isDirectory] at h
    rw [makeOne]
    cases hinspect : fs.inspect host path with
    | ok node => rfl
    | error fault => simp [hinspect] at h
  rw [makeDirectory]
  cases path.names.length <;> simp [makeWithin, hexists, h]

/-- Nothing is found below a file. -/
private theorem walk_concat_of_file {done : Location} {names : List Name} {name : Name}
    {content : Octets} {modified : Instant} {denied : Bool}
    (h : fs.walk done names = .ok (.file content modified denied)) :
    fs.walk done (names ++ [name]) = .error .notDirectory := by
  obtain ⟨way, last⟩ := walk_eq_ok_iff.mp h
  induction names generalizing done with
  | nil =>
    rw [List.append_nil] at last
    rw [List.nil_append, walk, last]
  | cons first rest ih =>
    obtain ⟨stamp, hat⟩ := way 0 (Nat.zero_lt_succ _)
    rw [List.take_zero, List.append_nil] at hat
    rw [walk, hat] at h
    obtain ⟨way, last⟩ := walk_eq_ok_iff.mp h
    rw [List.cons_append, walk, hat]
    exact ih h way last

/-- Directories are on the whole way to what is missing in a place that is there. -/
private theorem way_of_missing {path : Path} {fault : FileFault}
    (missing : fs.inspect host path = .error fault) (reason : fault.reason = .missing)
    (parent : (fs.walk [] (locate host path).dropLast).isOk = true) :
    ∀ depth < (locate host path).length,
      ∃ modified, fs.at? ((locate host path).take depth) = some (.directory modified) := by
  have nowhere : fs.walk [] (locate host path) = .error .missing := by
    rw [inspect] at missing
    cases hwalk : fs.walk [] (locate host path) with
    | ok node => simp [hwalk] at missing
    | error met =>
      rw [hwalk] at missing
      obtain rfl := Except.error.inj missing
      rw [← reason]
  generalize locate host path = names at nowhere parent
  obtain rfl | ⟨above, name, rfl⟩ := List.eq_nil_or_concat names
  · exact nofun
  · rw [List.concat_eq_append] at nowhere parent ⊢
    rw [List.dropLast_concat] at parent
    cases hparent : fs.walk [] above with
    | error reason =>
      rw [hparent] at parent
      cases parent
    | ok top =>
      cases top with
      | file => cases nowhere.symm.trans (walk_concat_of_file hparent)
      | directory modified =>
        rw [walk_eq_ok_iff] at hparent
        obtain ⟨way, hat⟩ := hparent
        intro depth hdepth
        rw [List.length_append, List.length_singleton] at hdepth
        rw [List.take_append_of_le_length (Nat.le_of_lt_succ hdepth)]
        obtain hless | rfl := Nat.lt_or_eq_of_le (Nat.le_of_lt_succ hdepth)
        · exact way depth hless
        · rw [List.take_length]
          exact ⟨modified, hat⟩

/-- Where directories are on the whole way, no file is in the way. -/
private theorem isBlocked_of_way {here : Location}
    (way : ∀ depth < here.length,
      ∃ modified, fs.at? (here.take depth) = some (.directory modified)) :
    fs.isBlocked here = false := by
  refine List.any_eq_false.mpr fun above habove => ?_
  obtain ⟨depth, hdepth, rfl⟩ := List.mem_map.mp habove
  obtain ⟨modified, hat⟩ := way depth (List.mem_range.mp hdepth)
  rw [hat]
  exact Bool.false_ne_true

private theorem isDirectory_makeOne {path : Path} (made : fs.makeOne host path = .ok later) :
    later.isDirectory host path = true := by
  rw [makeOne] at made
  cases missing : fs.inspect host path with
  | ok there => simp [missing] at made
  | error fault =>
    simp only [missing] at made
    split_ifs at made with hparent
    obtain rfl := Except.ok.inj made
    have way := way_of_missing missing hparent.1 hparent.2
    have free := isBlocked_of_way way
    have walk : (fs.put host path (.directory 0)).walk [] (locate host path) =
        .ok (.directory 0) := by
      rw [walk_eq_ok_iff]
      refine ⟨fun depth hdepth => ?_, ?_⟩
      · obtain ⟨modified, hat⟩ := way depth hdepth
        -- a shorter way is neither the place itself nor below it
        have hlength : ((locate host path).take depth).length < (locate host path).length := by
          rwa [List.length_take, Nat.min_eq_left (Nat.le_of_lt hdepth)]
        have hne : (locate host path).take depth ≠ locate host path := fun heq => by
          rw [heq] at hlength
          exact Nat.lt_irrefl _ hlength
        have hbelow : ¬(locate host path).isPrefixOf ((locate host path).take depth) := fun h =>
          Nat.not_le_of_lt hlength (List.isPrefixOf_iff_prefix.mp h).length_le
        refine ⟨modified, ?_⟩
        unfold put
        simp only [free, Bool.false_eq_true, if_false, List.nil_append, if_neg hne, if_neg hbelow,
          hat]
      · unfold put
        simp [free]
    rw [← inspect_eq_ok_iff] at walk
    rw [isDirectory, walk]

private theorem isDirectory_makeWithin {depth : Nat} {path : Path}
    (made : fs.makeWithin host depth path = .ok later) : later.isDirectory host path = true := by
  obtain ⟨rfl, there⟩ | one | ⟨less, between, rfl, above, last⟩ := makeWithin_cases made
  · exact there
  · exact isDirectory_makeOne one
  · exact isDirectory_makeOne last

/-- A directory that was made is there. -/
theorem isDirectory_makeDirectory {path : Path} (made : fs.makeDirectory host path = .ok later) :
    later.isDirectory host path = true := isDirectory_makeWithin made

/-! ### Below a directory -/

/-- What stands right below a path stands in a directory. -/
theorem isDirectory_of_below {path below : Path} {name : Name}
    (hbelow : locate host below = locate host path ++ [name]) {node : Node}
    (found : fs.inspect host below = .ok node) : fs.isDirectory host path = true := by
  rw [inspect_eq_ok_iff, hbelow] at found
  obtain ⟨modified, hat⟩ := (walk_eq_ok_iff.mp found).1 (locate host path).length (by simp)
  obtain ⟨above, habove⟩ := walk_take found (locate host path).length
  rw [List.nil_append, List.take_left] at hat
  rw [List.take_left] at habove
  obtain rfl := Option.some.inj ((at?_of_walk habove).symm.trans hat)
  rw [isDirectory, inspect_eq_ok_iff.mpr habove]

/-- A path leads to what stands at its end if its parent is there and no file is in the way. -/
private theorem inspect_of_parent {path : Path} {node : Node}
    (parent : (fs.walk [] (locate host path).dropLast).isOk = true)
    (unblocked : fs.isBlocked (locate host path) = false)
    (hat : fs.at? (locate host path) = some node) : fs.inspect host path = .ok node := by
  cases hparent : fs.walk [] (locate host path).dropLast with
  | error reason =>
    rw [hparent] at parent
    cases parent
  | ok top =>
    rw [inspect_eq_ok_iff, walk_eq_ok_iff]
    refine ⟨fun depth hdepth => ?_, hat⟩
    obtain ⟨above, habove⟩ := walk_take hparent depth
    have htake : (locate host path).dropLast.take depth = (locate host path).take depth := by
      rw [List.dropLast_eq_take, List.take_take, Nat.min_eq_left (Nat.le_sub_one_of_lt hdepth)]
    have hplace := at?_of_walk habove
    rw [htake] at hplace
    cases above with
    | directory modified => exact ⟨modified, hplace⟩
    | file content modified denied =>
      have hblocked : fs.isBlocked (locate host path) = true := by
        refine List.any_eq_true.mpr ⟨(locate host path).take depth, ?_, ?_⟩
        · exact List.mem_map.mpr ⟨depth, List.mem_range.mpr hdepth, rfl⟩
        · rw [hplace]
      cases unblocked.symm.trans hblocked

/-- Nothing stands below a directory that was just made. -/
private theorem inspect_below_makeOne {path below : Path} {name : Name} {node : Node}
    (made : fs.makeOne host path = .ok later)
    (hbelow : locate host below = locate host path ++ [name]) :
    later.inspect host below ≠ .ok node := by
  intro found
  rw [makeOne] at made
  cases missing : fs.inspect host path with
  | ok there => simp [missing] at made
  | error fault =>
    simp only [missing] at made
    split_ifs at made with hparent
    obtain rfl := Except.ok.inj made
    cases hblocked : fs.isBlocked (locate host path) with
    | true =>
      have hput : fs.put host path (.directory 0) = fs := if_pos hblocked
      rw [hput] at found
      have hdirectory := isDirectory_of_below hbelow found
      simp [isDirectory, missing] at hdirectory
    | false =>
      rw [inspect_eq_ok_iff, hbelow] at found
      have hat := at?_of_walk found
      have hhere : fs.at? (locate host path) = none := by
        cases hhere : fs.at? (locate host path) with
        | none => rfl
        | some there => cases missing.symm.trans (inspect_of_parent hparent.2 hblocked hhere)
      unfold put at hat
      simp [hblocked, hhere] at hat

/-! ### What a path leads to -/

/-- The node that a path leads to, if there is one. -/
def node? (host : Host) (fs : FileSystem) (path : Path) : Option Node :=
  (fs.inspect host path).toOption

/-- The content of the file at a path, if it can be read. -/
def content? (host : Host) (fs : FileSystem) (path : Path) : Option Octets :=
  (fs.read host path).toOption

theorem node?_eq_some_iff {path : Path} {node : Node} :
    fs.node? host path = some node ↔ fs.inspect host path = .ok node := by
  rw [node?]
  cases fs.inspect host path <;> simp [Except.toOption]

theorem node?_eq_none_iff {path : Path} :
    fs.node? host path = none ↔ ∀ node, fs.inspect host path ≠ .ok node := by
  rw [node?]
  cases fs.inspect host path <;> simp [Except.toOption]

/-- Making a directory changes nothing, or there was nothing right below it and there is nothing
afterwards. -/
theorem makeDirectory_below {path below : Path} {name : Name}
    (made : fs.makeDirectory host path = .ok later)
    (hbelow : locate host below = locate host path ++ [name]) :
    later = fs ∨ fs.node? host below = none ∧ later.node? host below = none := by
  by_cases hdirectory : fs.isDirectory host path = true
  · rw [makeDirectory_of_isDirectory hdirectory, Except.ok.injEq] at made
    exact .inl made.symm
  · have hmade : later = fs ∨ ∃ between : FileSystem, between.makeOne host path = .ok later := by
      obtain ⟨same, -⟩ | one | ⟨-, between, -, -, last⟩ := makeWithin_cases made
      · exact .inl same
      · exact .inr ⟨fs, one⟩
      · exact .inr ⟨between, last⟩
    rw [node?_eq_none_iff, node?_eq_none_iff]
    refine hmade.imp_right fun ⟨between, last⟩ => ⟨fun node found => ?_, fun node => ?_⟩
    · exact hdirectory (isDirectory_of_below hbelow found)
    · exact inspect_below_makeOne last hbelow

theorem modified?_eq (path : Path) :
    fs.modified? host path = (fs.node? host path).map (·.modified) := by
  rw [modified?, node?]
  cases fs.inspect host path <;> rfl

private theorem content?_eq (path : Path) :
    fs.content? host path =
      match fs.node? host path with
      | some (.file content _ false) => some content
      | _ => none := by
  rw [content?, read, node?]
  match fs.inspect host path with
  | .ok (.file _ _ true) | .ok (.file _ _ false) | .ok (.directory _) | .error _ => rfl

/-- The content depends on the node only. -/
theorem content?_congr {path : Path} (h : fs.node? host path = later.node? host path) :
    fs.content? host path = later.content? host path := by
  rw [content?_eq, content?_eq, h]

private theorem isDirectory_eq (path : Path) :
    fs.isDirectory host path =
      match fs.node? host path with
      | some (.directory _) => true
      | _ => false := by
  rw [isDirectory, node?]
  match fs.inspect host path with
  | .ok (.file ..) | .ok (.directory _) | .error _ => rfl

/-- Whether there is a directory depends on the node only. -/
theorem isDirectory_congr {path : Path} (h : fs.node? host path = later.node? host path) :
    fs.isDirectory host path = later.isDirectory host path := by
  rw [isDirectory_eq, isDirectory_eq, h]

theorem node_of_content {path : Path} {content : Octets}
    (h : fs.content? host path = some content) : ∃ node, fs.node? host path = some node := by
  cases hnode : fs.node? host path with
  | some node => exact ⟨node, rfl⟩
  | none => simp [content?_eq, hnode] at h

theorem content?_eq_some_iff {path : Path} {content : Octets} :
    fs.content? host path = some content ↔ fs.read host path = .ok content := by
  rw [content?]
  cases fs.read host path <;> simp [Except.toOption]

/-! ### What is new -/

/-- Nothing was changed but for directories that were made where nothing was. -/
structure KeepsFiles (host : Host) (fs later : FileSystem) : Prop where
  kept : ∀ path node, fs.node? host path = some node → later.node? host path = some node
  made : ∀ path node, later.node? host path = some node →
    fs.node? host path = some node ∨ node = .directory 0

theorem KeepsFiles.refl (host : Host) (fs : FileSystem) : fs.KeepsFiles host fs where
  kept _ _ found := found
  made _ _ found := .inl found

end FileSystem

end ArtifactLens
