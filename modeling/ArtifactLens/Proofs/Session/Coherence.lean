import ArtifactLens.Proofs.Registry.Coherence
import ArtifactLens.Proofs.Session.Run

/-!
# Coherence of the registry of a session

The registry of a session stays coherent whatever is asked of the session, however that ends, and
also if commands are registered in it, or it is cleared, behind the back of the session
(`History.coherent_registry`):

* a load, however far it gets, leaves the registry empty or with commands registered in an empty
  one;
* a build writes back a record that differs in its extra arguments only, so that it is still the
  record of its artifact.
-/

namespace ArtifactLens

variable {σ : Type}

namespace Session

theorem coherent_load (session : Session) (world : World σ) :
    (session.load world).2.1.registry.Coherent world.host :=
  match session.load world, session.loaded world with
  | _, .unread .. => .empty _ _ _
  | _, .blocked .. => (Registry.Coherent.empty _ _ _).registerAll _
  | _, .loaded .. => (Registry.Coherent.empty _ _ _).registerAll _

theorem coherent_refresh {session : Session} {world : World σ}
    (h : session.registry.Coherent world.host) :
    (session.refresh world).2.1.registry.Coherent world.host :=
  match session.refresh world, session.refreshed world with
  | _, .current .. => h
  | _, .reloaded .. => session.coherent_load world
  | _, .survived .. => .empty _ _ _
  | _, .broken .. => session.coherent_load world

end Session

namespace History

/-- The registry of the session is coherent. -/
def Coherent (history : History σ) : Prop := history.session.registry.Coherent history.world.host

theorem Coherent.start (places : Settings.Places) (world : World σ) :
    (start places world).Coherent := .empty world.host _ _

theorem coherent_loaded (history : History σ) : history.loaded.Coherent := by
  rw [Coherent, loaded, Session.host_load]
  exact history.session.coherent_load history.world

namespace Coherent

variable {tools : Toolchain σ} {history : History σ}

theorem refreshed (h : history.Coherent) : history.refreshed.Coherent := by
  rw [Coherent, History.refreshed, Session.host_refresh]
  exact Session.coherent_refresh h

/-- The record that is written back is still the record of its artifact. -/
theorem executed (h : history.Coherent) {artifact : Path} {record : BuildRecord}
    (found : history.session.registry.recordFor artifact = some record) :
    (history.executed tools record).Coherent := by
  rw [Coherent, History.executed, Toolchain.host_execute]
  obtain ⟨lastExtraArgs, hrecord⟩ :=
    tools.execute_record record history.session.extraArgs history.world
  rw [hrecord]
  have own := Registry.Coherent.recordFor_artifact h found
  exact Registry.Coherent.update h { record with lastExtraArgs } own rfl rfl

theorem act (h : history.Coherent) (op : Session.Op) : (history.act tools op).Coherent :=
  match op, history.act tools op, history.acted tools op with
  | _, _, .loaded => history.coherent_loaded
  | _, _, .refreshed _ => h.refreshed
  | _, _, .withExtraArgs _ => h
  | _, _, .executed _ _ found => h.refreshed.executed found

end Coherent

/-! ### Handling the registry directly -/

/-- One step of a run in which also the registry may be handled directly. -/
inductive Handled (tools : Toolchain σ) (history : History σ) : History σ → Prop
  | step {next : History σ} (step : Step tools history next) : Handled tools history next
  | register (command : CompileCommand) : Handled tools history
      { history with
        session := { history.session with
          registry := (history.session.registry.register history.world.host command).2 } }
  | clear : Handled tools history history.emptied

theorem Handled.coherent {tools : Toolchain σ} {history next : History σ}
    (handled : Handled tools history next) (h : history.Coherent) : next.Coherent := by
  cases handled with
  | step step =>
    cases step with
    | act op => exact h.act op
    | outside world host =>
      rw [Coherent, host]
      exact h
  | register command => exact Registry.Coherent.register h command
  | clear => exact .empty _ _ _

/-- **The registry stays coherent, whatever happens.** What a source is mapped to by a kind has a
record, of this artifact, source and kind, and is named after them; what has a record is mapped to;
all kinds have the same sources, with one record each; and a registration that is refused changes
nothing. -/
theorem coherent_registry {tools : Toolchain σ} {places : Settings.Places} {world : World σ}
    {history : History σ}
    (run : Relation.ReflTransGen (Handled tools) (start places world) history) :
    let registry := history.session.registry
    let host := history.world.host
    (∀ source kind artifact, registry.artifactFor source kind = some artifact →
      artifact = registry.artifactPath host source kind ∧
        ∃ record, registry.recordFor artifact = some record ∧ record.artifact = artifact ∧
          record.source = source ∧ record.kind = kind) ∧
      (∀ artifact record, registry.recordFor artifact = some record →
        registry.artifactFor record.source record.kind = some artifact) ∧
      (∀ kind other,
        (registry.artifacts.get kind).keys = (registry.artifacts.get other).keys) ∧
      (∀ kind, (registry.artifacts.get kind).keys.Nodup ∧
        registry.records.size = 3 * (registry.artifacts.get kind).keys.length) ∧
      ∀ command, (registry.register host command).1 = false →
        (registry.register host command).2 = registry := by
  intro registry host
  have coherent : registry.Coherent host := by
    induction run with
    | refl => exact Coherent.start places world
    | tail _ handled ih => exact handled.coherent ih
  refine ⟨coherent.mapped, coherent.recorded, coherent.sources, fun kind => ?_,
    fun command refused => ?_⟩
  · rw [Table.length_keys]
    exact ⟨coherent.nodup_sources kind, coherent.size_records kind⟩
  · have hregistered := registry.registered host command
    generalize registry.register host command = outcome at hregistered refused
    cases hregistered with
    | refused => rfl
    | accepted => cases refused

open Sample in
/-- The listings of two sources of one flattened name collide, and the second source is refused. -/
theorem coherent_registry_collision :
    let first : CompileCommand := ⟨⟨.root, [⟨"a.x", by decide⟩]⟩, ⟨.root, []⟩, "c", []⟩
    let second : CompileCommand := ⟨⟨.root, [⟨"a@x", by decide⟩]⟩, ⟨.root, []⟩, "c", []⟩
    let registry := ((Registry.empty places.root places.outputDir).register host first).2
    registry.records.size = 3 ∧ (registry.register host second).2 = registry := by
  intro first second registry
  have run : Relation.ReflTransGen (Handled tools) (start places newWorld)
      { start places newWorld with session := { Session.start places with registry } } :=
    .single (.register first)
  have refused : (registry.register host second).1 = false := by decide +kernel
  have single : (registry.artifacts.get .disassembly).keys.length = 1 := by decide +kernel
  obtain ⟨-, -, -, sizes, unchanged⟩ := coherent_registry run
  exact ⟨(sizes .disassembly).2.trans (by rw [single]), unchanged second refused⟩

end History

end ArtifactLens
