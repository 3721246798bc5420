import ArtifactLens.Artifact.Record
import ArtifactLens.Table

/-!
# The registry

Which artifacts exist and how each is built. A compile command registers one artifact of every
kind for its source. An artifact is named after the path of the source below the project root,
with slashes and dots flattened; where two sources flatten to one name, the first to register
keeps it and the other is refused as a whole. A source that registers again replaces its records,
which then come last.
-/

namespace ArtifactLens

/-- One value for each kind. -/
structure PerKind (α : Type) where
  disassembly : α
  llvmIr : α
  preprocessed : α
  deriving DecidableEq

namespace PerKind

variable {α : Type}

/-- The same value for each kind. -/
def fill (value : α) : PerKind α := ⟨value, value, value⟩

/-- The value for a kind. -/
def get (values : PerKind α) : Kind → α
  | .disassembly => values.disassembly
  | .llvmIr => values.llvmIr
  | .preprocessed => values.preprocessed

/-- Gives a kind a value. -/
def set (values : PerKind α) (kind : Kind) (value : α) : PerKind α :=
  match kind with
  | .disassembly => { values with disassembly := value }
  | .llvmIr => { values with llvmIr := value }
  | .preprocessed => { values with preprocessed := value }

@[simp]
theorem get_fill (value : α) (kind : Kind) : (fill value).get kind = value := by
  cases kind <;> rfl

@[simp]
theorem get_set (values : PerKind α) (kind other : Kind) (value : α) :
    (values.set kind value).get other = if kind = other then value else values.get other := by
  cases kind <;> cases other <;> rfl

end PerKind

/-- The known artifacts and their records. -/
structure Registry where
  /-- The directory below which sources are named. -/
  root : Path
  /-- The directory that holds the artifacts. -/
  outputDir : Path
  /-- The artifact of each source, for each kind. -/
  artifacts : PerKind (Table Path Path)
  /-- The record of each artifact. -/
  records : Table Path BuildRecord

namespace Registry

/-- The registry without artifacts. -/
def empty (root outputDir : Path) : Registry := ⟨root, outputDir, .fill .empty, .empty⟩

/-- A name without separators for a relative path: slashes and dots become `@`. -/
def flatten (relative : Path) : String :=
  String.ofList (relative.text.toList.map fun c => if c = '/' ∨ c = '.' then '@' else c)

/-- Where the artifact of a source goes. -/
def artifactPath (host : Host) (registry : Registry) (source : Path) (kind : Kind) : Path :=
  registry.outputDir.join
    (Path.ofText (flatten (host.relative registry.root source) ++ kind.extension source))

/-- The artifact belongs to another source. -/
def isTaken (registry : Registry) (source artifact : Path) : Bool :=
  match registry.records.get? artifact with
  | some owner => owner.source != source
  | none => false

/-- Makes the record of one artifact of a command, in place of the record of the artifact that the
source had for this kind. -/
def place (host : Host) (command : CompileCommand) (registry : Registry) (kind : Kind) :
    Registry :=
  let artifact := registry.artifactPath host command.source kind
  let known := registry.artifacts.get kind
  let records := match known.get? command.source with
    | some previous => registry.records.erase previous
    | none => registry.records
  { registry with
    artifacts := registry.artifacts.set kind (known.insert command.source artifact)
    records := records.insert artifact {
      artifact
      source := command.source
      kind
      command := command.recipe kind artifact
      directory := command.directory } }

/-- Registers the artifacts of a command, unless one of them belongs to another source. -/
def register (host : Host) (registry : Registry) (command : CompileCommand) : Bool × Registry :=
  if Kind.all.any fun kind =>
      registry.isTaken command.source (registry.artifactPath host command.source kind) then
    (false, registry)
  else (true, Kind.all.foldl (place host command) registry)

/-- Registers commands in order. -/
def registerAll (host : Host) (registry : Registry) (commands : List CompileCommand) : Registry :=
  commands.foldl (fun registry command => (registry.register host command).2) registry

/-- The registered artifact of a source. -/
def artifactFor (registry : Registry) (source : Path) (kind : Kind) : Option Path :=
  (registry.artifacts.get kind).get? source

/-- The record of an artifact. -/
def recordFor (registry : Registry) (artifact : Path) : Option BuildRecord :=
  registry.records.get? artifact

/-- The source of an artifact. -/
def sourceFor (registry : Registry) (artifact : Path) : Option Path :=
  (registry.recordFor artifact).map (·.source)

/-- Writes back the record of an artifact that is registered. -/
def update (registry : Registry) (record : BuildRecord) : Registry :=
  match registry.records.get? record.artifact with
  | some _ => { registry with records := registry.records.insert record.artifact record }
  | none => registry

/-- The registry with nothing registered. -/
def clear (registry : Registry) : Registry := empty registry.root registry.outputDir

end Registry

end ArtifactLens
