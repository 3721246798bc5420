import ArtifactLens.Proofs.Registry.Names
import ArtifactLens.Proofs.Table
import Mathlib.Data.List.ProdSigma

/-!
# Coherence of the registry

The four maps of a registry tell the same story. `Registry.Coherent` says so:

* **Sources**: every kind lists the same sources in the same order, and no map repeats a key.
* **Mapped**: what a source is mapped to by a kind has a record, which is about this artifact, this
  source and this kind, and it is named after them.
* **Recorded**: what has a record is reached from the map of its kind at its source.

The registry without artifacts is coherent, and a registration keeps a registry coherent
(`Coherent.register`) although it drops old records while it writes new ones: the artifact that a
source had for a kind is the one that it has now, since its name depends on nothing else. So does
the write of a record that differs in its extra arguments only (`Coherent.update`). A coherent
registry holds three records for each source (`Coherent.size_records`).
-/

namespace ArtifactLens

/-- Every kind is one of all kinds. -/
@[simp]
theorem Kind.mem_all (kind : Kind) : kind ∈ Kind.all := by cases kind <;> decide

namespace Registry

variable {host : Host} {registry : Registry} {command : CompileCommand}

/-- The record of an artifact of a command. -/
def recordOf (host : Host) (registry : Registry) (command : CompileCommand) (kind : Kind) :
    BuildRecord where
  artifact := registry.artifactPath host command.source kind
  source := command.source
  kind
  command := command.recipe kind (registry.artifactPath host command.source kind)
  directory := command.directory

@[simp]
theorem recordOf_artifact (kind : Kind) : (registry.recordOf host command kind).artifact =
    registry.artifactPath host command.source kind := by
  simp only [recordOf]

@[simp]
theorem recordOf_source (kind : Kind) :
    (registry.recordOf host command kind).source = command.source := rfl

@[simp]
theorem recordOf_kind (kind : Kind) : (registry.recordOf host command kind).kind = kind := rfl

@[simp]
theorem recordOf_lastExtraArgs (kind : Kind) :
    (registry.recordOf host command kind).lastExtraArgs = [] := rfl

/-- The registry with the artifacts of a command, whomever they belong to. -/
def placeAll (host : Host) (registry : Registry) (command : CompileCommand) : Registry :=
  Kind.all.foldl (place host command) registry

/-- Every artifact is named after its source and its kind. -/
def Named (host : Host) (registry : Registry) : Prop :=
  ∀ source kind artifact, registry.artifactFor source kind = some artifact →
    artifact = registry.artifactPath host source kind

/-! ### Placing the artifacts of a command -/

theorem artifactFor_place (kind other : Kind) (source : Path) :
    (place host command registry kind).artifactFor source other =
      if kind = other ∧ command.source = source
      then some (registry.artifactPath host command.source kind)
      else registry.artifactFor source other := by
  rw [artifactFor, artifactFor, place, PerKind.get_set]
  by_cases hkind : kind = other
  · subst hkind
    simp
  · simp [hkind]

theorem recordFor_place (named : registry.Named host) (kind : Kind) (artifact : Path) :
    (place host command registry kind).recordFor artifact =
      if registry.artifactPath host command.source kind = artifact
      then some (registry.recordOf host command kind)
      else registry.recordFor artifact := by
  rw [recordFor, recordFor, place, Table.get?_insert]
  split_ifs with hnew
  · rfl
  · -- the artifact that the source had for this kind is the one it has now
    cases hknown : (registry.artifacts.get kind).get? command.source with
    | none => rfl
    | some previous =>
      rw [Table.get?_erase, if_neg (named _ _ _ hknown ▸ hnew)]

theorem Named.place (named : registry.Named host) (kind : Kind) :
    (place host command registry kind).Named host := by
  intro source other artifact h
  rw [artifactFor_place] at h
  split_ifs at h with hsame
  · obtain ⟨rfl, rfl⟩ := hsame
    exact (Option.some.inj h).symm
  · exact named source other artifact h

theorem artifacts_placeAll (kind : Kind) :
    (registry.placeAll host command).artifacts.get kind =
      (registry.artifacts.get kind).insert command.source
        (registry.artifactPath host command.source kind) := by
  cases kind <;> rfl

@[simp]
theorem root_placeAll : (registry.placeAll host command).root = registry.root := rfl

@[simp]
theorem outputDir_placeAll : (registry.placeAll host command).outputDir = registry.outputDir := rfl

theorem artifactPath_placeAll (source : Path) (kind : Kind) :
    (registry.placeAll host command).artifactPath host source kind =
      registry.artifactPath host source kind := by
  rw [artifactPath, artifactPath, root_placeAll, outputDir_placeAll]

theorem artifactFor_placeAll (source : Path) (kind : Kind) :
    (registry.placeAll host command).artifactFor source kind =
      if command.source = source then some (registry.artifactPath host command.source kind)
      else registry.artifactFor source kind := by
  rw [artifactFor, artifacts_placeAll, Table.get?_insert]
  rfl

private theorem recordFor_placeAll (named : registry.Named host) (artifact : Path) :
    (registry.placeAll host command).recordFor artifact =
      if registry.artifactPath host command.source .preprocessed = artifact
      then some (registry.recordOf host command .preprocessed)
      else if registry.artifactPath host command.source .llvmIr = artifact
      then some (registry.recordOf host command .llvmIr)
      else if registry.artifactPath host command.source .disassembly = artifact
      then some (registry.recordOf host command .disassembly)
      else registry.recordFor artifact := by
  have hfirst : (place host command registry .disassembly).Named host := named.place .disassembly
  have hsecond : (place host command (place host command registry .disassembly) .llvmIr).Named
      host := hfirst.place .llvmIr
  refine (recordFor_place hsecond .preprocessed artifact).trans (if_congr Iff.rfl rfl ?_)
  refine (recordFor_place hfirst .llvmIr artifact).trans (if_congr Iff.rfl rfl ?_)
  exact recordFor_place named .disassembly artifact

/-- Each artifact of the command gets its record. -/
theorem recordFor_placeAll_artifactPath (named : registry.Named host) (kind : Kind) :
    (registry.placeAll host command).recordFor
      (registry.artifactPath host command.source kind) =
        some (registry.recordOf host command kind) := by
  have hkinds : ∀ {other another : Kind}, registry.artifactPath host command.source other =
      registry.artifactPath host command.source another ↔ other = another :=
    ⟨fun h => (artifactPath_inj h).2, fun h => by rw [h]⟩
  rw [recordFor_placeAll named]
  simp only [hkinds]
  cases kind <;> rfl

/-- Records of other artifacts stay. -/
theorem recordFor_placeAll_of_ne (named : registry.Named host) {artifact : Path}
    (h : ∀ kind, registry.artifactPath host command.source kind ≠ artifact) :
    (registry.placeAll host command).recordFor artifact = registry.recordFor artifact := by
  rw [recordFor_placeAll named, if_neg (h _), if_neg (h _), if_neg (h _)]

private theorem nodup_records_place (h : registry.records.keys.Nodup) (kind : Kind) :
    (place host command registry kind).records.keys.Nodup := by
  refine Table.nodup_keys_insert ?_ _ _
  cases (registry.artifacts.get kind).get? command.source with
  | none => exact h
  | some previous => exact Table.nodup_keys_erase h previous

private theorem nodup_records_foldl_place (kinds : List Kind) (h : registry.records.keys.Nodup) :
    (kinds.foldl (place host command) registry).records.keys.Nodup := by
  induction kinds generalizing registry with
  | nil => exact h
  | cons kind rest ih => exact ih (nodup_records_place h kind)

/-! ### Registering -/

/-- What a registration comes to. -/
inductive Registered (host : Host) (registry : Registry) (command : CompileCommand) :
    Bool × Registry → Prop
  /-- An artifact belongs to another source, and nothing changes. -/
  | refused (kind : Kind) (owner : BuildRecord)
      (found : registry.recordFor (registry.artifactPath host command.source kind) = some owner)
      (other : owner.source ≠ command.source) :
      Registered host registry command (false, registry)
  /-- No artifact belongs to another source, and all are placed. -/
  | accepted
      (own : ∀ kind owner,
        registry.recordFor (registry.artifactPath host command.source kind) = some owner →
          owner.source = command.source) :
      Registered host registry command (true, registry.placeAll host command)

theorem isTaken_iff {source artifact : Path} :
    registry.isTaken source artifact = true ↔
      ∃ owner, registry.recordFor artifact = some owner ∧ owner.source ≠ source := by
  rw [isTaken, recordFor]
  cases registry.records.get? artifact with
  | none => simp
  | some owner => simp

theorem registered (host : Host) (registry : Registry) (command : CompileCommand) :
    Registered host registry command (registry.register host command) := by
  rw [register]
  split_ifs with h
  · obtain ⟨kind, -, htaken⟩ := List.any_eq_true.mp h
    obtain ⟨owner, hfound, hother⟩ := isTaken_iff.mp htaken
    exact .refused kind owner hfound hother
  · refine .accepted fun kind owner hfound => ?_
    by_contra hother
    exact h (List.any_eq_true.mpr
      ⟨kind, kind.mem_all, isTaken_iff.mpr ⟨owner, hfound, hother⟩⟩)

/-! ### Coherence -/

/-- The maps of a registry tell the same story. -/
structure Coherent (host : Host) (registry : Registry) : Prop where
  /-- Every kind lists the same sources. -/
  sources : ∀ kind other, (registry.artifacts.get kind).keys = (registry.artifacts.get other).keys
  nodup_sources : ∀ kind, (registry.artifacts.get kind).keys.Nodup
  nodup_records : registry.records.keys.Nodup
  /-- The artifact of a source has a name and a record of its own. -/
  mapped : ∀ source kind artifact, registry.artifactFor source kind = some artifact →
    artifact = registry.artifactPath host source kind ∧
      ∃ record, registry.recordFor artifact = some record ∧ record.artifact = artifact ∧
        record.source = source ∧ record.kind = kind
  /-- What has a record is reached from the map of its kind at its source. -/
  recorded : ∀ artifact record, registry.recordFor artifact = some record →
    registry.artifactFor record.source record.kind = some artifact

namespace Coherent

theorem empty (host : Host) (root outputDir : Path) : (empty root outputDir).Coherent host where
  sources kind other := by simp [Registry.empty]
  nodup_sources kind := by simp [Registry.empty]
  nodup_records := by simp [Registry.empty]
  mapped source kind artifact h := by simp [Registry.empty, artifactFor] at h
  recorded artifact record h := by simp [Registry.empty, recordFor] at h

theorem named (h : registry.Coherent host) : registry.Named host :=
  fun source kind artifact hmapped => (h.mapped source kind artifact hmapped).1

/-- The record at an artifact is about this artifact. -/
theorem artifact_eq (h : registry.Coherent host) {artifact : Path} {record : BuildRecord}
    (hrecord : registry.recordFor artifact = some record) : record.artifact = artifact := by
  obtain ⟨-, other, hother, hartifact, -⟩ :=
    h.mapped _ _ _ (h.recorded artifact record hrecord)
  rw [hrecord, Option.some.injEq] at hother
  rw [hother, hartifact]

theorem recordFor_artifact (h : registry.Coherent host) {artifact : Path} {record : BuildRecord}
    (hrecord : registry.recordFor artifact = some record) :
    registry.recordFor record.artifact = some record := by
  rw [h.artifact_eq hrecord, hrecord]

/-- Placing the artifacts of a command keeps coherence if none of them belongs to another source. -/
theorem placeAll (h : registry.Coherent host)
    (own : ∀ kind owner,
      registry.recordFor (registry.artifactPath host command.source kind) = some owner →
        owner.source = command.source) :
    (registry.placeAll host command).Coherent host where
  sources kind other := by
    rw [artifacts_placeAll, artifacts_placeAll, Table.keys_insert, Table.keys_insert,
      h.sources kind other]
  nodup_sources kind := by
    rw [artifacts_placeAll]
    exact Table.nodup_keys_insert (h.nodup_sources kind) _ _
  nodup_records := nodup_records_foldl_place Kind.all h.nodup_records
  mapped source kind artifact hmapped := by
    rw [artifactFor_placeAll] at hmapped
    split_ifs at hmapped with hsource
    · obtain rfl := Option.some.inj hmapped
      obtain rfl := hsource
      exact ⟨(artifactPath_placeAll _ _).symm, registry.recordOf host command kind,
        recordFor_placeAll_artifactPath h.named kind, recordOf_artifact kind,
        recordOf_source kind, recordOf_kind kind⟩
    · obtain ⟨hname, record, hrecord, hartifact, howner, hkind⟩ :=
        h.mapped source kind artifact hmapped
      have hne : ∀ other, registry.artifactPath host command.source other ≠ artifact := by
        intro other hother
        rw [← hother] at hrecord
        exact hsource ((own other record hrecord).symm.trans howner)
      exact ⟨hname.trans (artifactPath_placeAll _ _).symm, record,
        (recordFor_placeAll_of_ne h.named hne).trans hrecord, hartifact, howner, hkind⟩
  recorded artifact record hrecord := by
    by_cases hplaced : ∃ kind, registry.artifactPath host command.source kind = artifact
    · obtain ⟨kind, rfl⟩ := hplaced
      rw [recordFor_placeAll_artifactPath h.named, Option.some.injEq] at hrecord
      subst hrecord
      rw [recordOf_source, recordOf_kind, artifactFor_placeAll, if_pos rfl]
    · rw [not_exists] at hplaced
      rw [recordFor_placeAll_of_ne h.named hplaced] at hrecord
      have hmapped := h.recorded artifact record hrecord
      rw [artifactFor_placeAll, if_neg, hmapped]
      intro hsource
      refine hplaced record.kind ?_
      rw [hsource]
      exact (h.named _ _ _ hmapped).symm

/-- **A registration keeps coherence**, whether it is accepted or refused. -/
theorem register (h : registry.Coherent host) (command : CompileCommand) :
    (registry.register host command).2.Coherent host :=
  match registry.register host command, registered host registry command with
  | _, .refused .. => h
  | _, .accepted own => h.placeAll own

theorem registerAll (h : registry.Coherent host) (commands : List CompileCommand) :
    (registry.registerAll host commands).Coherent host := by
  induction commands generalizing registry with
  | nil => exact h
  | cons command rest ih => exact ih (h.register command)

end Coherent

/-- The records of commands remember no builds. -/
theorem lastExtraArgs_registerAll (coherent : registry.Coherent host)
    (fresh : ∀ artifact record, registry.recordFor artifact = some record →
      record.lastExtraArgs = []) (commands : List CompileCommand) {artifact : Path}
    {record : BuildRecord}
    (h : (registry.registerAll host commands).recordFor artifact = some record) :
    record.lastExtraArgs = [] := by
  induction commands generalizing registry with
  | nil => exact fresh artifact record h
  | cons command rest ih =>
    refine ih (coherent.register command) (fun other found hfound => ?_) h
    have hregistered := registered host registry command
    generalize registry.register host command = outcome at hregistered hfound
    cases hregistered with
    | refused => exact fresh other found hfound
    | accepted =>
      by_cases hplaced : ∃ kind, registry.artifactPath host command.source kind = other
      · obtain ⟨kind, rfl⟩ := hplaced
        rw [recordFor_placeAll_artifactPath coherent.named, Option.some.injEq] at hfound
        rw [← hfound, recordOf_lastExtraArgs]
      · rw [not_exists] at hplaced
        rw [recordFor_placeAll_of_ne coherent.named hplaced] at hfound
        exact fresh other found hfound

/-! ### Writing back a record -/

theorem recordFor_update (record : BuildRecord) {old : BuildRecord}
    (hold : registry.recordFor record.artifact = some old) (artifact : Path) :
    (registry.update record).recordFor artifact =
      if record.artifact = artifact then some record else registry.recordFor artifact := by
  rw [recordFor] at hold
  rw [update, hold, recordFor, Table.get?_insert]
  rfl

@[simp]
theorem artifacts_update (record : BuildRecord) :
    (registry.update record).artifacts = registry.artifacts := by
  rw [update]
  split <;> rfl

@[simp]
theorem root_update (record : BuildRecord) : (registry.update record).root = registry.root := by
  rw [update]
  split <;> rfl

@[simp]
theorem outputDir_update (record : BuildRecord) :
    (registry.update record).outputDir = registry.outputDir := by
  rw [update]
  split <;> rfl

/-- A record may be replaced by one of the same artifact, source and kind. -/
theorem Coherent.update (h : registry.Coherent host) (record : BuildRecord) {old : BuildRecord}
    (hold : registry.recordFor record.artifact = some old) (hsource : record.source = old.source)
    (hkind : record.kind = old.kind) : (registry.update record).Coherent host where
  sources kind other := by simpa using h.sources kind other
  nodup_sources kind := by simpa using h.nodup_sources kind
  nodup_records := by
    rw [Registry.update]
    split
    · exact Table.nodup_keys_insert h.nodup_records _ _
    · exact h.nodup_records
  mapped source kind artifact hmapped := by
    rw [artifactFor, artifacts_update] at hmapped
    obtain ⟨hname, other, hother, hartifact, howner, hsame⟩ := h.mapped source kind artifact hmapped
    rw [artifactPath, root_update, outputDir_update, ← artifactPath]
    refine ⟨hname, ?_⟩
    rw [recordFor_update record hold]
    split_ifs with hplace
    · rw [← hplace, hold, Option.some.injEq] at hother
      subst hother
      exact ⟨record, rfl, hplace, hsource.trans howner, hkind.trans hsame⟩
    · exact ⟨other, hother, hartifact, howner, hsame⟩
  recorded artifact other hother := by
    rw [artifactFor, artifacts_update]
    rw [recordFor_update record hold] at hother
    split_ifs at hother with hplace
    · obtain rfl := Option.some.inj hother
      rw [hsource, hkind, ← hplace]
      exact h.recorded _ _ hold
    · exact h.recorded artifact other hother

/-! ### Counting -/

/-- The artifacts that have records are those of all kinds of all sources. -/
theorem Coherent.keys_records_perm (h : registry.Coherent host) (kind : Kind) :
    registry.records.keys.Perm
      ((Kind.all ×ˢ (registry.artifacts.get kind).keys).map fun place =>
        registry.artifactPath host place.2 place.1) := by
  have hmapped : ∀ source other, source ∈ (registry.artifacts.get kind).keys →
      ∃ record, registry.recordFor (registry.artifactPath host source other) = some record ∧
        record.source = source ∧ record.kind = other := by
    intro source other hsource
    rw [h.sources kind other, Table.mem_keys_iff] at hsource
    obtain ⟨artifact, hartifact⟩ := hsource
    obtain ⟨hname, record, hrecord, -, howner, hkind⟩ := h.mapped source other artifact hartifact
    exact ⟨record, hname ▸ hrecord, howner, hkind⟩
  refine (List.perm_ext_iff_of_nodup h.nodup_records ?_).mpr fun artifact => ?_
  · refine List.Nodup.map_on ?_ (List.Nodup.product (by decide) (h.nodup_sources kind))
    rintro ⟨other, source⟩ hplace ⟨other', source'⟩ hplace' heq
    obtain ⟨record, hrecord, hsource, hkind⟩ :=
      hmapped source other (List.mem_product.mp hplace).2
    obtain ⟨record', hrecord', hsource', hkind'⟩ :=
      hmapped source' other' (List.mem_product.mp hplace').2
    rw [heq, hrecord', Option.some.injEq] at hrecord
    rw [← hsource, ← hkind, ← hsource', ← hkind', hrecord]
  · rw [Table.mem_keys_iff, List.mem_map]
    constructor
    · rintro ⟨record, hrecord⟩
      have hartifact := h.recorded artifact record hrecord
      refine ⟨(record.kind, record.source), List.mem_product.mpr ⟨Kind.mem_all _, ?_⟩,
        (h.named _ _ _ hartifact).symm⟩
      rw [h.sources kind record.kind]
      exact Table.mem_keys_of_get? hartifact
    · rintro ⟨⟨other, source⟩, hplace, rfl⟩
      obtain ⟨record, hrecord, -⟩ := hmapped source other (List.mem_product.mp hplace).2
      exact ⟨record, hrecord⟩

/-- **Every source has one record of each kind.** -/
theorem Coherent.size_records (h : registry.Coherent host) (kind : Kind) :
    registry.records.size = 3 * (registry.artifacts.get kind).size := by
  rw [← Table.length_keys, (h.keys_records_perm kind).length_eq, List.length_map,
    List.length_product, Table.length_keys]
  rfl

end Registry

end ArtifactLens
