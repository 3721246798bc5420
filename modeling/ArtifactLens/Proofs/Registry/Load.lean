import ArtifactLens.Proofs.Registry.Coherence
import Mathlib.Data.List.Induction

/-!
# Loading commands

What a registry holds after a list of commands was registered in order, said without the order of
events:

* **Owners**: the owner of a flattened name is the source of the first command whose source has
  this name (`owner?`). The sources that own their names are the known ones.
* **Last commands**: the artifacts of a known source are made by its last command
  (`lastOfEach`, `kept`).
* **Order**: the records come in the order of these commands, those of one command in the order of
  the kinds.

A registration drops the records of its source and writes them anew at the end; `Loaded` says that
the records are those of the kept commands so far, and `Loaded.register` is its step. The closed
form of a load is `registerAll_empty`.
-/

namespace ArtifactLens

namespace Registry

variable {host : Host} {registry : Registry} {command : CompileCommand}

/-! ### Owners -/

/-- The owner of a name: the source of the first command whose source has this flattened name. -/
def owner? (host : Host) (registry : Registry) (commands : List CompileCommand) (name : String) :
    Option Path :=
  (commands.find? fun command => registry.flatName host command.source = name).map (·.source)

/-- A source owns its flattened name. -/
def Owns (host : Host) (registry : Registry) (commands : List CompileCommand) (source : Path) :
    Prop :=
  registry.owner? host commands (registry.flatName host source) = some source

instance (host : Host) (registry : Registry) (commands : List CompileCommand) (source : Path) :
    Decidable (registry.Owns host commands source) :=
  inferInstanceAs (Decidable (_ = _))

variable {commands : List CompileCommand} {source : Path} {name : String}

theorem owner?_concat :
    registry.owner? host (commands ++ [command]) name =
      (registry.owner? host commands name).or
        (if registry.flatName host command.source = name then some command.source else none) := by
  rw [owner?, List.find?_append, owner?, Option.map_or]
  by_cases h : registry.flatName host command.source = name <;> simp [h]

theorem flatName_of_owner? (h : registry.owner? host commands name = some source) :
    registry.flatName host source = name := by
  rw [owner?, Option.map_eq_some_iff] at h
  obtain ⟨command, hfind, rfl⟩ := h
  have hname := List.find?_some hfind
  exact of_decide_eq_true hname

theorem owns_of_owner? (h : registry.owner? host commands name = some source) :
    registry.Owns host commands source := by
  rw [Owns, flatName_of_owner? h, h]

/-- A further command makes its source an owner unless the name has another owner. -/
theorem owns_concat_self :
    registry.Owns host (commands ++ [command]) command.source ↔
      ∀ owner, registry.owner? host commands (registry.flatName host command.source) = some owner →
        owner = command.source := by
  rw [Owns, owner?_concat, if_pos rfl]
  cases registry.owner? host commands (registry.flatName host command.source) with
  | none => simp
  | some owner => simp

/-- A further command does not change who else is an owner. -/
theorem owns_concat_of_ne (h : source ≠ command.source) :
    registry.Owns host (commands ++ [command]) source ↔ registry.Owns host commands source := by
  rw [Owns, Owns, owner?_concat]
  cases registry.owner? host commands (registry.flatName host source) with
  | none =>
    rw [Option.none_or]
    split_ifs
    · simp [h.symm]
    · rfl
  | some owner => rw [Option.some_or]

/-- A source that owns its name does so after further commands. -/
theorem Owns.concat (h : registry.Owns host commands source) :
    registry.Owns host (commands ++ [command]) source := by
  rw [Owns, owner?_concat, h, Option.some_or]

/-! ### Last commands -/

/-- The last command of each source, in order. -/
def lastOfEach : List CompileCommand → List CompileCommand
  | [] => []
  | command :: later =>
    if later.any (·.source = command.source) then lastOfEach later
    else command :: lastOfEach later

/-- A further command takes the place of the earlier ones of its source. -/
theorem lastOfEach_concat (commands : List CompileCommand) (command : CompileCommand) :
    lastOfEach (commands ++ [command]) =
      (lastOfEach commands).filter (·.source ≠ command.source) ++ [command] := by
  induction commands with
  | nil => rfl
  | cons first rest ih =>
    rw [List.cons_append, lastOfEach, ih, lastOfEach, List.any_append]
    by_cases hrest : rest.any (·.source = first.source)
    · simp only [hrest, Bool.true_or, if_true]
    · by_cases hcommand : command.source = first.source
      · simp [hrest, hcommand]
      · simp [hrest, hcommand, Ne.symm hcommand]

/-- The commands that a load keeps: the last one of each owner, in order. -/
def kept (host : Host) (registry : Registry) (commands : List CompileCommand) :
    List CompileCommand :=
  (lastOfEach commands).filter fun command => registry.Owns host commands command.source

theorem kept_concat_of_owns (h : registry.Owns host (commands ++ [command]) command.source) :
    registry.kept host (commands ++ [command]) =
      (registry.kept host commands).filter (·.source ≠ command.source) ++ [command] := by
  rw [kept, lastOfEach_concat, List.filter_append, List.filter_singleton, decide_eq_true h,
    cond_true, kept, List.filter_filter, List.filter_filter]
  congr 1
  refine List.filter_congr fun other _ => ?_
  by_cases hother : other.source = command.source
  · simp [hother]
  · simp [hother, owns_concat_of_ne hother]

theorem kept_concat_of_not_owns
    (h : ¬registry.Owns host (commands ++ [command]) command.source) :
    registry.kept host (commands ++ [command]) = registry.kept host commands := by
  rw [kept, lastOfEach_concat, List.filter_append, List.filter_singleton, decide_eq_false h,
    cond_false, List.append_nil, kept, List.filter_filter]
  refine List.filter_congr fun other _ => ?_
  by_cases hother : other.source = command.source
  · simp [hother, h, mt Owns.concat h]
  · simp [hother, owns_concat_of_ne hother]

theorem owns_of_mem_kept (h : command ∈ registry.kept host commands) :
    registry.Owns host commands command.source :=
  of_decide_eq_true (List.mem_filter.mp h).2

/-! ### Records in order -/

@[simp]
theorem artifactPath_place (kind : Kind) (source : Path) (other : Kind) :
    (place host command registry kind).artifactPath host source other =
      registry.artifactPath host source other := by
  rw [artifactPath, artifactPath, place]

@[simp]
theorem recordOf_place (kind other : Kind) :
    (place host command registry kind).recordOf host command other =
      registry.recordOf host command other := by
  rw [recordOf, recordOf, artifactPath_place]

/-- Where a source has no artifact, the name of that artifact is free. -/
def Free (host : Host) (registry : Registry) (source : Path) : Prop :=
  ∀ kind, registry.artifactFor source kind = none →
    registry.recordFor (registry.artifactPath host source kind) = none

/-- Placing an artifact puts its record last. -/
theorem records_place (named : registry.Named host) (free : registry.Free host command.source)
    (kind : Kind) :
    (place host command registry kind).records =
      (registry.records.erase (registry.artifactPath host command.source kind)).insert
        (registry.artifactPath host command.source kind)
        (registry.recordOf host command kind) := by
  rw [place, recordOf]
  cases hknown : (registry.artifacts.get kind).get? command.source with
  | none =>
    have unknown := Table.erase_of_get?_eq_none (free kind hknown)
    simp only [unknown]
  | some previous =>
    -- the artifact that the source had for this kind is the one it has now
    have same := named _ _ _ hknown
    simp only [same]

theorem Free.place (free : registry.Free host command.source) (named : registry.Named host)
    (kind : Kind) : (place host command registry kind).Free host command.source := by
  intro other hnone
  rw [artifactFor_place] at hnone
  split_ifs at hnone with hkind
  have hother : registry.artifactPath host command.source kind ≠
      registry.artifactPath host command.source other :=
    fun heq => hkind ⟨(artifactPath_inj heq).2, rfl⟩
  rw [artifactPath_place, recordFor_place named, if_neg hother]
  exact free other hnone

/-- Placing artifacts puts their records last, in the order of their kinds. -/
theorem entries_foldl_place (named : registry.Named host)
    (free : registry.Free host command.source) {kinds : List Kind} (nodup : kinds.Nodup) :
    (kinds.foldl (place host command) registry).records.entries =
      registry.records.entries.filter
          (fun entry => ∀ kind ∈ kinds, registry.artifactPath host command.source kind ≠ entry.1) ++
        kinds.map fun kind => (registry.artifactPath host command.source kind,
          registry.recordOf host command kind) := by
  induction kinds generalizing registry with
  | nil => simp
  | cons kind rest ih =>
    rw [List.nodup_cons] at nodup
    have hlast : ∀ other ∈ rest, registry.artifactPath host command.source other ≠
        registry.artifactPath host command.source kind := by
      rintro other hother heq
      exact nodup.1 ((artifactPath_inj heq).2 ▸ hother)
    rw [List.foldl_cons, ih (named.place kind) (free.place named kind) nodup.2]
    simp only [artifactPath_place, recordOf_place, records_place named free,
      Table.entries_insert_erase, List.filter_append, List.filter_filter, List.filter_singleton]
    rw [decide_eq_true hlast, cond_true, List.append_assoc, List.singleton_append, List.map_cons]
    refine congrArg (· ++ _) (List.filter_congr fun entry _ => ?_)
    rw [← Bool.decide_and, decide_eq_decide, List.forall_mem_cons, and_comm, ne_comm]

/-- Filtering what comes of a list by what it comes from. -/
private theorem filter_flatMap_of {α β : Type} {f : α → List β} {p : α → Bool} {q : β → Bool}
    {origins : List α} (h : ∀ origin ∈ origins, ∀ item ∈ f origin, q item = p origin) :
    (origins.flatMap f).filter q = (origins.filter p).flatMap f := by
  induction origins with
  | nil => rfl
  | cons origin rest ih =>
    rw [List.forall_mem_cons] at h
    rw [List.flatMap_cons, List.filter_append, ih h.2, List.filter_cons]
    cases horigin : p origin with
    | true =>
      rw [if_pos rfl, List.flatMap_cons,
        List.filter_eq_self.mpr fun item hitem => (h.1 item hitem).trans horigin]
    | false =>
      rw [if_neg Bool.false_ne_true, List.filter_eq_nil_iff.mpr fun item hitem => ?_,
        List.nil_append]
      rw [h.1 item hitem, horigin]
      exact Bool.false_ne_true

/-! ### The step of a load -/

/-- The artifacts of a command with their records. -/
def entriesOf (host : Host) (registry : Registry) (command : CompileCommand) :
    List (Path × BuildRecord) :=
  Kind.all.map fun kind =>
    (registry.artifactPath host command.source kind, registry.recordOf host command kind)

theorem mem_entriesOf {artifact : Path} {record : BuildRecord} :
    (artifact, record) ∈ registry.entriesOf host command ↔
      ∃ kind, registry.artifactPath host command.source kind = artifact ∧
        registry.recordOf host command kind = record := by
  simp only [entriesOf, List.mem_map, Kind.mem_all, true_and, Prod.mk.injEq]

/-- What a registry holds after commands were registered, from the registry that named them. -/
structure Loaded (host : Host) (start : Registry) (commands : List CompileCommand)
    (registry : Registry) : Prop where
  root : registry.root = start.root
  outputDir : registry.outputDir = start.outputDir
  coherent : registry.Coherent host
  /-- The sources that own their names have artifacts. -/
  known : ∀ source kind, (∃ artifact, registry.artifactFor source kind = some artifact) ↔
    start.Owns host commands source
  /-- The records are those of the last commands of the owners. -/
  entries : registry.records.entries = (start.kept host commands).flatMap (start.entriesOf host)

namespace Loaded

variable {start : Registry}

theorem nil (host : Host) (root outputDir : Path) :
    Loaded host (empty root outputDir) [] (empty root outputDir) where
  root := rfl
  outputDir := rfl
  coherent := .empty host root outputDir
  known source kind := by simp [Owns, owner?, artifactFor, Registry.empty]
  entries := rfl

theorem artifactPath_eq (h : Loaded host start commands registry) (source : Path) (kind : Kind) :
    registry.artifactPath host source kind = start.artifactPath host source kind := by
  rw [artifactPath, artifactPath, h.root, h.outputDir]

theorem recordOf_eq (h : Loaded host start commands registry) (command : CompileCommand)
    (kind : Kind) : registry.recordOf host command kind = start.recordOf host command kind := by
  rw [recordOf, recordOf, h.artifactPath_eq]

/-- Who has an artifact owns its name. -/
theorem owner_of_found (h : Loaded host start commands registry) {kind : Kind}
    {record : BuildRecord}
    (found : registry.recordFor (start.artifactPath host source kind) = some record) :
    start.owner? host commands (start.flatName host source) = some record.source := by
  have hmapped := h.coherent.recorded _ _ found
  have howns := (h.known record.source record.kind).mp ⟨_, hmapped⟩
  have hname := h.coherent.named _ _ _ hmapped
  rw [h.artifactPath_eq] at hname
  rw [(artifactPath_inj hname).1]
  exact howns

/-- Who owns a name has the listing of this name. -/
theorem found_of_owner (h : Loaded host start commands registry) {owner : Path}
    (howner : start.owner? host commands (start.flatName host source) = some owner) :
    ∃ record, registry.recordFor (start.artifactPath host source .disassembly) = some record ∧
      record.source = owner := by
  obtain ⟨artifact, hmapped⟩ := (h.known owner .disassembly).mpr (owns_of_owner? howner)
  obtain ⟨hname, record, hrecord, -, hsource, -⟩ := h.coherent.mapped _ _ _ hmapped
  rw [h.artifactPath_eq, artifactPath, ← flatName, flatName_of_owner? howner] at hname
  exact ⟨record, by rw [artifactPath, ← flatName, ← hrecord, hname]; rfl, hsource⟩

/-- A registration is accepted if and only if the source owns its name from then on. -/
theorem accepted_iff (h : Loaded host start commands registry) (command : CompileCommand) :
    (registry.register host command).1 = true ↔
      start.Owns host (commands ++ [command]) command.source := by
  rw [owns_concat_self]
  have hregistered := registered host registry command
  generalize registry.register host command = outcome at hregistered
  cases hregistered with
  | refused kind owner found other =>
    rw [h.artifactPath_eq] at found
    exact iff_of_false Bool.false_ne_true fun howns => other (howns _ (h.owner_of_found found))
  | accepted own =>
    refine iff_of_true rfl fun owner howner => ?_
    obtain ⟨record, hrecord, hsource⟩ := h.found_of_owner howner
    rw [← hsource]
    exact own .disassembly record ((h.artifactPath_eq _ _).symm ▸ hrecord)

/-- The names of a source are free as long as none of them belongs to another source. -/
theorem free (h : Loaded host start commands registry)
    (own : ∀ kind owner,
      registry.recordFor (registry.artifactPath host command.source kind) = some owner →
        owner.source = command.source) : registry.Free host command.source := by
  intro kind hnone
  cases hfound : registry.recordFor (registry.artifactPath host command.source kind) with
  | none => rfl
  | some record =>
    have hmapped := h.coherent.recorded _ _ hfound
    rw [own kind record hfound] at hmapped
    rw [(artifactPath_inj (h.coherent.named _ _ _ hmapped)).2, hmapped] at hnone
    cases hnone

/-- Owners have different artifacts. -/
theorem artifactPath_ne {other : Path} (howns : start.Owns host commands source)
    (hother : start.Owns host commands other) (hne : other ≠ source) (kind another : Kind) :
    start.artifactPath host source kind ≠ start.artifactPath host other another := by
  intro heq
  have hname := (artifactPath_inj heq).1
  rw [Owns, hname, hother, Option.some.injEq] at howns
  exact hne howns

/-- Dropping the artifacts of a source drops what its command left. -/
theorem entries_filter (h : Loaded host start commands registry)
    (howns : start.Owns host (commands ++ [command]) command.source) :
    registry.records.entries.filter
        (fun entry => ∀ kind ∈ Kind.all,
          registry.artifactPath host command.source kind ≠ entry.1) =
      ((start.kept host commands).filter (·.source ≠ command.source)).flatMap
        (start.entriesOf host) := by
  rw [h.entries]
  refine filter_flatMap_of fun other hkept entry hentry => ?_
  obtain ⟨artifact, record⟩ := entry
  obtain ⟨another, rfl, -⟩ := mem_entriesOf.mp hentry
  simp only [h.artifactPath_eq]
  by_cases hsource : other.source = command.source
  · rw [decide_eq_false, decide_eq_false (not_not_intro hsource)]
    exact fun hall => hall another another.mem_all (by rw [hsource])
  · rw [decide_eq_true, decide_eq_true hsource]
    exact fun kind _ => artifactPath_ne howns (owns_of_mem_kept hkept).concat hsource kind another

/-- **A registration takes a load one command further.** -/
theorem register (h : Loaded host start commands registry) (command : CompileCommand) :
    Loaded host start (commands ++ [command]) (registry.register host command).2 := by
  have haccepted := h.accepted_iff command
  have hcoherent := h.coherent.register command
  have hregistered := registered host registry command
  generalize registry.register host command = outcome at hregistered haccepted hcoherent
  cases hregistered with
  | refused =>
    have hnot := mt haccepted.mpr Bool.false_ne_true
    refine ⟨h.root, h.outputDir, hcoherent, fun source kind => ?_, ?_⟩
    · rw [h.known]
      by_cases hsource : source = command.source
      · rw [hsource]
        exact iff_of_false (mt Owns.concat hnot) hnot
      · exact (owns_concat_of_ne hsource).symm
    · rw [kept_concat_of_not_owns hnot]
      exact h.entries
  | accepted own =>
    have howns := haccepted.mp rfl
    refine ⟨h.root, h.outputDir, hcoherent, fun source kind => ?_, ?_⟩
    · rw [artifactFor_placeAll]
      by_cases hsource : source = command.source
      · rw [hsource, if_pos rfl]
        exact iff_of_true ⟨_, rfl⟩ howns
      · rw [if_neg (Ne.symm hsource), h.known, owns_concat_of_ne hsource]
    · rw [kept_concat_of_owns howns, List.flatMap_append, List.flatMap_singleton,
        ← h.entries_filter howns]
      refine (entries_foldl_place h.coherent.named (h.free own) (by decide)).trans ?_
      simp only [entriesOf, h.artifactPath_eq, h.recordOf_eq]

end Loaded

/-- Registering commands one after the other loads them. -/
theorem loaded_registerAll (host : Host) (root outputDir : Path) (commands : List CompileCommand) :
    Loaded host (empty root outputDir) commands
      ((empty root outputDir).registerAll host commands) := by
  induction commands using List.reverseRecOn with
  | nil => exact .nil host root outputDir
  | append_singleton commands command ih =>
    rw [registerAll, List.foldl_append]
    exact ih.register command

/-! ### The closed form -/

/-- Whether a source owns its name is settled by its first command. -/
theorem owns_append_iff (later : List CompileCommand) :
    registry.Owns host (commands ++ command :: later) command.source ↔
      registry.Owns host (commands ++ [command]) command.source := by
  rw [List.append_cons, Owns, Owns, owner?, List.find?_append, Option.map_or, ← owner?]
  rw [owner?_concat, if_pos rfl]
  cases registry.owner? host commands (registry.flatName host command.source) <;> rfl

/-- The last command of an owner is kept. -/
theorem mem_kept {earlier later : List CompileCommand}
    (howns : registry.Owns host (earlier ++ command :: later) command.source)
    (hlast : ∀ other ∈ later, other.source ≠ command.source) :
    command ∈ registry.kept host (earlier ++ command :: later) := by
  refine List.mem_filter.mpr ⟨?_, decide_eq_true howns⟩
  clear howns
  induction earlier with
  | nil =>
    rw [List.nil_append, lastOfEach, if_neg]
    · exact List.mem_cons_self
    · simpa using hlast
  | cons first rest ih =>
    rw [List.cons_append, lastOfEach]
    split_ifs
    · exact ih
    · exact List.mem_cons_of_mem _ ih

/-- The artifacts of an owner are made by its last command. -/
theorem Loaded.found {start : Registry} {earlier later : List CompileCommand}
    (h : Loaded host start (earlier ++ command :: later) registry)
    (howns : start.Owns host (earlier ++ command :: later) command.source)
    (hlast : ∀ other ∈ later, other.source ≠ command.source) (kind : Kind) :
    registry.artifactFor command.source kind =
        some (start.artifactPath host command.source kind) ∧
      registry.recordFor (start.artifactPath host command.source kind) =
        some (start.recordOf host command kind) := by
  have hentry : (start.artifactPath host command.source kind, start.recordOf host command kind) ∈
      registry.records.entries := by
    rw [h.entries]
    exact List.mem_flatMap.mpr ⟨command, mem_kept howns hlast, mem_entriesOf.mpr ⟨kind, rfl, rfl⟩⟩
  have hfound : registry.recordFor (start.artifactPath host command.source kind) =
      some (start.recordOf host command kind) :=
    Table.get?_of_mem_entries h.coherent.nodup_records hentry
  have hmapped := h.coherent.recorded _ _ hfound
  rw [recordOf_source, recordOf_kind] at hmapped
  exact ⟨hmapped, hfound⟩

/-- **The closed form of a load.** A source is known if and only if it owns its name, and exactly
the commands of such sources are accepted. Its artifacts are made by its last command, with no
extra arguments on record. The records come in the order of these commands, three for each. -/
theorem registerAll_empty (host : Host) (root outputDir : Path) (commands : List CompileCommand) :
    let start := empty root outputDir
    let registry := start.registerAll host commands
    (∀ source kind, (∃ artifact, registry.artifactFor source kind = some artifact) ↔
      start.owner? host commands (start.flatName host source) = some source) ∧
    (∀ earlier command later, commands = earlier ++ command :: later →
      (((start.registerAll host earlier).register host command).1 = true ↔
        start.owner? host commands (start.flatName host command.source) =
          some command.source)) ∧
    (∀ earlier command later, commands = earlier ++ command :: later →
      start.owner? host commands (start.flatName host command.source) = some command.source →
      (∀ other ∈ later, other.source ≠ command.source) → ∀ kind,
        let artifact := start.artifactPath host command.source kind
        registry.artifactFor command.source kind = some artifact ∧
          registry.recordFor artifact = some {
            artifact
            source := command.source
            kind
            command := command.recipe kind artifact
            directory := command.directory
            lastExtraArgs := [] }) ∧
    registry.records.values =
      (start.kept host commands).flatMap fun command =>
        Kind.all.map fun kind => start.recordOf host command kind := by
  intro start registry
  have hloaded : Loaded host start commands registry := loaded_registerAll host root outputDir _
  refine ⟨hloaded.known, ?_, ?_, ?_⟩
  · rintro earlier command later rfl
    exact ((loaded_registerAll host root outputDir earlier).accepted_iff command).trans
      (owns_append_iff later).symm
  · rintro earlier command later rfl howns hlast kind artifact
    exact hloaded.found howns hlast kind
  · rw [Table.values, hloaded.entries, List.map_flatMap]
    simp only [entriesOf, List.map_map, Function.comp_def]

/-- Of two sources of one flattened name the first is known, and its second command counts. -/
theorem registerAll_empty_collision :
    let host : Host := ⟨⟨.root, []⟩, "/", []⟩
    let start := empty ⟨.root, []⟩ ⟨.root, [⟨"o", by decide⟩]⟩
    let first : CompileCommand := ⟨⟨.root, [⟨"a.x", by decide⟩]⟩, ⟨.root, []⟩, "c", []⟩
    let second : CompileCommand := { first with source := ⟨.root, [⟨"a@x", by decide⟩]⟩ }
    let third : CompileCommand := { first with compiler := "d" }
    let registry := start.registerAll host [first, second, third]
    (¬∃ artifact, registry.artifactFor second.source .disassembly = some artifact) ∧
      ((start.registerAll host [first]).register host second).1 = false ∧
      (∀ kind, registry.recordFor (start.artifactPath host first.source kind) =
        some (start.recordOf host third kind)) ∧
      registry.records.values = Kind.all.map fun kind => start.recordOf host third kind := by
  intro host start first second third registry
  obtain ⟨known, accepted, found, values⟩ :=
    registerAll_empty host ⟨.root, []⟩ ⟨.root, [⟨"o", by decide⟩]⟩ [first, second, third]
  refine ⟨mt (known _ _).mp (by decide +kernel), ?_, fun kind => ?_, ?_⟩
  · exact Bool.eq_false_iff.mpr (mt (accepted [first] second [third] rfl).mp (by decide +kernel))
  · exact (found [first, second] third [] rfl (by decide +kernel) (by simp) kind).2
  · have hkept : start.kept host [first, second, third] = [third] := by decide +kernel
    rw [values, hkept, List.flatMap_singleton]

end Registry

end ArtifactLens
