import ArtifactLens.Proofs.Registry.Coherence

/-!
# Artifacts of one name

Two artifacts have one path if and only if they are of one kind, their sources have one flattened
name, and, as the artifact of a preprocessed source keeps the suffix of the source, these suffixes
are the same. The names of disassemblies and of LLVM IR are therefore the coarser ones: where two
sources have one preprocessed artifact, they have one disassembly too, but not conversely.

**A command is refused if and only if the disassembly of its source belongs to another source**
(`Registry.artifactPath_collision_iff`), as long as the registry is coherent: who has an artifact
has one of each kind.
-/

namespace ArtifactLens

namespace Registry

variable {host : Host} {registry : Registry} {source another : Path} {kind other : Kind}

/-! ### Names and places -/

/-- The first dot of a name starts the extension, so artifacts of one path have one extension. -/
theorem extension_of_artifactPath
    (h : registry.artifactPath host source kind = registry.artifactPath host another other) :
    kind.extension source = other.extension another := by
  have hlast := congrArg (fun path => path.names.getLast?.map Name.text) h
  simp only [artifactPath_eq, List.getLast?_concat, Option.map_some, Option.some.injEq] at hlast
  rw [← String.toList_inj, ← dropWhile_artifact host registry source kind,
    ← dropWhile_artifact host registry another other, hlast]

/-- **Artifacts of one path** are of one kind, and their sources have one flattened name and, if it
shows in the extension, one suffix. -/
theorem artifactPath_eq_iff :
    registry.artifactPath host source kind = registry.artifactPath host another other ↔
      kind = other ∧ registry.flatName host source = registry.flatName host another ∧
        (kind = .preprocessed → source.suffix = another.suffix) := by
  constructor
  · intro h
    obtain ⟨flat, rfl⟩ := artifactPath_inj h
    refine ⟨rfl, flat, ?_⟩
    rintro rfl
    have extension := congrArg String.toList (extension_of_artifactPath h)
    simpa [Kind.extension, String.toList_inj] using extension
  · rintro ⟨rfl, flat, suffix⟩
    have extension : kind.extension source = kind.extension another := by
      cases kind with
      | disassembly | llvmIr => rfl
      | preprocessed => rw [Kind.extension, suffix rfl, Kind.extension]
    rw [artifactPath, ← flatName, flat, extension, flatName, ← artifactPath]

/-- The path of an artifact is that of the output directory with one name more. -/
theorem exists_artifactPath_eq (host : Host) (registry : Registry) (source : Path) (kind : Kind) :
    ∃ name : Name, name.isUp = false ∧
      registry.artifactPath host source kind =
        { registry.outputDir with names := registry.outputDir.names ++ [name] } :=
  ⟨_, isUp_artifact host registry source kind, artifactPath_eq host registry source kind⟩

/-! ### Refusals -/

theorem register_eq_false_iff {command : CompileCommand} :
    (registry.register host command).1 = false ↔
      ∃ kind, registry.isTaken command.source
        (registry.artifactPath host command.source kind) = true := by
  rw [register]
  split_ifs with taken
  · obtain ⟨kind, -, htaken⟩ := List.any_eq_true.mp taken
    exact iff_of_true rfl ⟨kind, htaken⟩
  · refine iff_of_false (by simp) ?_
    rintro ⟨kind, htaken⟩
    exact taken (List.any_eq_true.mpr ⟨kind, kind.mem_all, htaken⟩)

/-- In a coherent registry, a source to which an artifact of any kind is denied is denied its
disassembly. -/
theorem Coherent.isTaken_disassembly (coherent : registry.Coherent host)
    (taken : registry.isTaken source (registry.artifactPath host source kind) = true) :
    registry.isTaken source (registry.artifactPath host source .disassembly) = true := by
  obtain ⟨owner, found, foreign⟩ := isTaken_iff.mp taken
  have mapped := coherent.recorded _ _ found
  have flat := (artifactPath_inj (coherent.named _ _ _ mapped)).1
  have same : registry.artifactPath host source .disassembly =
      registry.artifactPath host owner.source .disassembly :=
    artifactPath_eq_iff.mpr ⟨rfl, flat, nofun⟩
  -- the owner has a disassembly too, and it is the one that the source would have
  have known : owner.source ∈ (registry.artifacts.get .disassembly).keys := by
    rw [coherent.sources .disassembly owner.kind]
    exact Table.mem_keys_of_get? mapped
  obtain ⟨artifact, listed⟩ := Table.mem_keys_iff.mp known
  obtain ⟨named, record, hrecord, -, hsource, -⟩ := coherent.mapped _ .disassembly artifact listed
  rw [same, isTaken_iff]
  exact ⟨record, named ▸ hrecord, hsource ▸ foreign⟩

/-- **Artifacts collide by their flattened names only.** Two artifacts have one path if and only if
they are of one kind, the ways from the project root to their sources are flattened to one text,
and, for preprocessed sources, the suffixes are the same. Every artifact stands right in the output
directory. In a coherent registry, a command is refused if and only if an artifact of some kind
belongs to another source, and this is so if and only if the disassembly does. -/
theorem artifactPath_collision_iff (host : Host) (registry : Registry) :
    (∀ source another kind other,
      registry.artifactPath host source kind = registry.artifactPath host another other ↔
        kind = other ∧
          flatten (host.relative registry.root source) =
            flatten (host.relative registry.root another) ∧
          (kind = .preprocessed → source.suffix = another.suffix)) ∧
      (∀ source kind, ∃ name : Name, name.isUp = false ∧
        registry.artifactPath host source kind =
          { registry.outputDir with names := registry.outputDir.names ++ [name] }) ∧
      (registry.Coherent host → ∀ command : CompileCommand,
        let denied (kind : Kind) :=
          registry.isTaken command.source (registry.artifactPath host command.source kind) = true
        ((registry.register host command).1 = false ↔ ∃ kind, denied kind) ∧
          ((∃ kind, denied kind) ↔ denied .disassembly)) := by
  refine ⟨fun source another kind other => artifactPath_eq_iff,
    fun source kind => exists_artifactPath_eq host registry source kind, fun coherent command => ?_⟩
  intro denied
  refine ⟨register_eq_false_iff, fun ⟨kind, taken⟩ => ?_, fun taken => ⟨.disassembly, taken⟩⟩
  exact coherent.isTaken_disassembly taken

/-- Beside `/x/y.z.c`, the sources `/x.y/z.c` and `/x/y.z@c` are refused, although the preprocessed
artifact of the second would have a path of its own. -/
theorem artifactPath_collision_iff_refused :
    let host : Host := ⟨⟨.root, []⟩, "/", []⟩
    let start := empty ⟨.root, []⟩ ⟨.root, [⟨"o", by decide⟩]⟩
    let first : CompileCommand :=
      ⟨⟨.root, [⟨"x", by decide⟩, ⟨"y.z.c", by decide⟩]⟩, ⟨.root, []⟩, "c", []⟩
    let second : CompileCommand :=
      { first with source := ⟨.root, [⟨"x.y", by decide⟩, ⟨"z.c", by decide⟩]⟩ }
    let third : CompileCommand :=
      { first with source := ⟨.root, [⟨"x", by decide⟩, ⟨"y.z@c", by decide⟩]⟩ }
    let registry := (start.register host first).2
    registry.Coherent host ∧
      (registry.register host second).1 = false ∧
      (registry.register host third).1 = false ∧
      registry.artifactPath host first.source .preprocessed =
        registry.artifactPath host second.source .preprocessed ∧
      registry.artifactPath host first.source .preprocessed ≠
        registry.artifactPath host third.source .preprocessed := by
  intro host start first second third registry
  have coherent : registry.Coherent host :=
    (Coherent.empty host ⟨.root, []⟩ ⟨.root, [⟨"o", by decide⟩]⟩).register first
  obtain ⟨paths, -, refusals⟩ := artifactPath_collision_iff host registry
  have refused (command : CompileCommand)
      (taken : registry.isTaken command.source
        (registry.artifactPath host command.source .disassembly) = true) :
      (registry.register host command).1 = false := by
    obtain ⟨refusal, disassembly⟩ := refusals coherent command
    exact refusal.mpr (disassembly.mpr taken)
  refine ⟨coherent, refused second (by decide +kernel), refused third (by decide +kernel), ?_, ?_⟩
  · exact (paths _ _ _ _).mpr (by decide +kernel)
  · exact mt (paths _ _ _ _).mp (by decide +kernel)

end Registry

end ArtifactLens
