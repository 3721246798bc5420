import ArtifactLens.Artifact.Record
import ArtifactLens.FileSystem

/-!
# Staleness

When an artifact has to be built again: its extra arguments changed, its source is gone, or its
source or the database is newer than the artifact. Newer means strictly later.
-/

namespace ArtifactLens

/-- What the modification time of a file is compared with. -/
inductive Reference where
  | never
  | moment (instant : Instant)
  | file (path : Path)

namespace FileSystem

/-- The moment of a reference; a file that cannot be inspected has none. -/
def moment? (host : Host) (fs : FileSystem) : Reference → Option Instant
  | .never => none
  | .moment instant => some instant
  | .file path => fs.modified? host path

/-- The file was modified after the reference. A reference without moment lies infinitely far
back; a missing file is never newer than a moment. -/
def isNewer (host : Host) (fs : FileSystem) (path : Path) (reference : Reference) : Bool :=
  match fs.moment? host reference with
  | none => true
  | some moment =>
    match fs.modified? host path with
    | none => false
    | some modified => moment < modified

end FileSystem

/-- The artifact of a record has to be built before it answers for the given arguments. -/
def BuildRecord.needsBuild (host : Host) (fs : FileSystem) (record : BuildRecord)
    (extraArgs : List String) (database : Path) : Bool :=
  if extraArgs ≠ record.lastExtraArgs then true
  else if fs.modified? host record.source = none then true
  else
    fs.isNewer host record.source (.file record.artifact) ||
      fs.isNewer host database (.file record.artifact)

end ArtifactLens
