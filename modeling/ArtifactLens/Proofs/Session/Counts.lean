import ArtifactLens.Proofs.Session.FailedLoads

/-!
# What a load counts

A load answers the number of entries of the database. Registering them is another matter: an entry
is refused, and nothing is said, if its flattened name belongs to the source of an earlier entry.

* **Answers**: a command is accepted if and only if its source owns its name
  (`Registry.answers_clear`), so the refused commands are those of sources that own no name.
* **The number**: a load counts the refused entries too (`Session.count_iff`). Its answer is the
  number of the accepted ones if and only if no two sources of the database have one name.
-/

namespace ArtifactLens

variable {σ : Type}

namespace Registry

variable {host : Host} {registry : Registry} {commands : List CompileCommand}
  {command : CompileCommand}

/-- Whether each command is accepted when commands are registered in order. -/
def answers (host : Host) : Registry → List CompileCommand → List Bool
  | _, [] => []
  | registry, command :: later =>
    (registry.register host command).1 :: answers host (registry.register host command).2 later

/-- The number of commands that are accepted when commands are registered in order. -/
def accepted (host : Host) (registry : Registry) (commands : List CompileCommand) : Nat :=
  (registry.answers host commands).count true

/-- The number of commands whose source does not own its name. -/
def unowned (host : Host) (registry : Registry) (commands : List CompileCommand) : Nat :=
  commands.countP fun command => ¬registry.Owns host commands command.source

theorem answers_concat (registry : Registry) (commands : List CompileCommand)
    (command : CompileCommand) :
    registry.answers host (commands ++ [command]) =
      registry.answers host commands ++
        [((registry.registerAll host commands).register host command).1] := by
  induction commands generalizing registry with
  | nil => rfl
  | cons first rest ih =>
    rw [List.cons_append, answers, ih, answers, List.cons_append]
    rfl

/-- Whether a source owns its name is settled when its first command is read. -/
theorem owns_concat_of_mem (h : command ∈ commands) (other : CompileCommand) :
    registry.Owns host (commands ++ [other]) command.source ↔
      registry.Owns host commands command.source := by
  obtain ⟨earlier, later, rfl⟩ := List.append_of_mem h
  rw [List.append_assoc, List.cons_append, owns_append_iff, owns_append_iff later]

/-- **A command is accepted if and only if its source owns its name.** -/
theorem answers_clear (registry : Registry) (commands : List CompileCommand) :
    registry.clear.answers host commands =
      commands.map fun command => decide (registry.clear.Owns host commands command.source) := by
  -- from the end, because whether a source owns its name depends on the commands before
  induction commands using List.reverseRecOn with
  | nil => rfl
  | append_singleton commands command ih =>
    have last := (loaded_registerAll host registry.root registry.outputDir commands).accepted_iff
      command
    rw [answers_concat, ih, List.map_append, List.map_singleton]
    refine congrArg₂ (· ++ [·]) (List.map_congr_left fun earlier hearlier => ?_) ?_
    · exact decide_eq_decide.mpr (owns_concat_of_mem hearlier command).symm
    · exact Bool.eq_iff_iff.mpr (last.trans decide_eq_true_iff.symm)

/-- Every command is accepted, or its source does not own its name. -/
theorem accepted_add_unowned (host : Host) (registry : Registry) (commands : List CompileCommand) :
    registry.clear.accepted host commands + registry.clear.unowned host commands =
      commands.length := by
  rw [accepted, answers_clear, List.count, List.countP_map, unowned,
    List.length_eq_countP_add_countP fun command =>
      decide (registry.clear.Owns host commands command.source)]
  simp [Function.comp_def]

/-- No two sources of the commands have one flattened name. -/
def Apart (host : Host) (registry : Registry) (commands : List CompileCommand) : Prop :=
  ∀ first ∈ commands, ∀ second ∈ commands,
    registry.flatName host first.source = registry.flatName host second.source →
      first.source = second.source

/-- All sources own their names if and only if no two have one name. -/
theorem unowned_eq_zero_iff :
    registry.unowned host commands = 0 ↔ registry.Apart host commands := by
  rw [unowned, List.countP_eq_zero]
  simp only [decide_eq_true_iff, not_not]
  constructor
  · intro own first hfirst second hsecond same
    have hfirst := own first hfirst
    rw [Owns, same, own second hsecond] at hfirst
    exact (Option.some.inj hfirst).symm
  · intro apart command hcommand
    obtain ⟨owner, howner⟩ : ∃ owner, registry.owner? host commands
        (registry.flatName host command.source) = some owner := by
      rw [← Option.isSome_iff_exists, owner?, Option.isSome_map, List.find?_isSome]
      exact ⟨command, hcommand, decide_eq_true rfl⟩
    have same := flatName_of_owner? howner
    rw [owner?, Option.map_eq_some_iff] at howner
    obtain ⟨first, hfirst, rfl⟩ := howner
    have hsource := apart first (List.mem_of_find?_eq_some hfirst) command hcommand same
    rw [Owns, owner?, hfirst, Option.map_some, hsource]

end Registry

/-- **A load counts the entries of the database**, those that are refused among them. The number is
that of the entries that are accepted if and only if no two sources have one flattened name. -/
theorem Session.count_iff {session : Session} {world : World σ} {count : Nat}
    (loaded : (session.load world).1 = .ok count) :
    ∃ commands, Database.commands world.host world.files session.database = .ok commands ∧
      (session.load world).2.1.registry = session.registry.clear.registerAll world.host commands ∧
      count = commands.length ∧
      count = session.registry.clear.accepted world.host commands +
        session.registry.clear.unowned world.host commands ∧
      (count = session.registry.clear.accepted world.host commands ↔
        session.registry.clear.Apart world.host commands) := by
  have hloaded := session.loaded world
  generalize session.load world = step at hloaded loaded ⊢
  cases hloaded with
  | unread | blocked => cases loaded
  | loaded commands files read =>
    obtain rfl := Except.ok.inj loaded
    have total := session.registry.accepted_add_unowned world.host commands
    refine ⟨commands, read, rfl, rfl, total.symm, ?_⟩
    rw [← total, Nat.add_eq_left, Registry.unowned_eq_zero_iff]

/-! ### Two sources of one name -/

namespace Sample

/-- A database with entries for `/a.b` and `/a@b`, which have one flattened name. -/
def colliding : FileSystem where
  at? location :=
    match location.map Name.text with
    | [] => some (.directory 0)
    | ["d"] => some (.file (("[\x7b\"file\":\"a.b\",\"directory\":\"/\",\"command\":\"c\"\x7d," ++
        "\x7b\"file\":\"a@b\",\"directory\":\"/\",\"command\":\"c\"\x7d]").toList.map
          fun c => UInt8.ofNat c.toNat) 1000 false)
    | _ => none

def collision : World Unit := ⟨host, colliding, 1500, (), []⟩

/-- The commands of the database. -/
def colliders : List CompileCommand :=
  [⟨⟨.root, [⟨"a.b", by decide⟩]⟩, ⟨.root, []⟩, "c", []⟩,
    ⟨⟨.root, [⟨"a@b", by decide⟩]⟩, ⟨.root, []⟩, "c", []⟩]

/-- The load reads both entries, and counts both. -/
private theorem colliding_spec :
    Database.commands host colliding places.database = .ok colliders ∧
      ((Session.start places).load collision).1 = .ok 2 := by
  decide +kernel

end Sample

open Sample in
/-- Of two entries whose sources have one name, the second is counted but not accepted. -/
theorem Session.count_iff_colliding :
    let start := (Session.start places).registry.clear
    ((Session.start places).load collision).1 = .ok 2 ∧
      2 = start.accepted host colliders + start.unowned host colliders ∧
      2 ≠ start.accepted host colliders := by
  intro start
  obtain ⟨listed, counted⟩ := colliding_spec
  obtain ⟨commands, read, -, -, total, exact⟩ := count_iff counted
  obtain rfl := Except.ok.inj (listed.symm.trans read)
  refine ⟨counted, total, mt exact.mp fun apart => ?_⟩
  have same := apart _ List.mem_cons_self _ (List.mem_cons_of_mem _ List.mem_cons_self)
    (by decide +kernel)
  exact absurd same (by decide)

open Sample in
/-- **A load may count an entry that is not registered.** -/
theorem Session.load_counts_refused :
    ((Session.start places).load collision).1 = .ok 2 ∧
      Database.commands host colliding places.database = .ok colliders ∧
      (Session.start places).registry.clear.accepted host colliders = 1 := by
  obtain ⟨listed, counted⟩ := colliding_spec
  exact ⟨counted, listed, by decide +kernel⟩

end ArtifactLens
