import ArtifactLens.Host
import ArtifactLens.Number.Binary64
import ArtifactLens.Text.Quoted
import ArtifactLens.Text.Utf8

/-!
# The file system

Files and directories, by location: the names from the root, with `..` resolved. Every access
names a path, which is made absolute first; the two kinds of root are one place. Reading,
inspecting and making directories fail for the reasons of `FileFault.Reason`; putting and removing
files, which stand for what other programs do, do not fail.
-/

namespace ArtifactLens

/-- The names that lead to a place from the root. -/
abbrev Location := List Name

/-- What stands at a location. -/
inductive Node where
  /-- A file; a denied file can be inspected but not opened. -/
  | file (content : Octets) (modified : Instant) (denied : Bool)
  | directory (modified : Instant)

/-- When a node was last modified. -/
def Node.modified : Node → Instant
  | .file _ modified _ => modified
  | .directory modified => modified

/-- Why an access fails. -/
inductive FileFault.Reason where
  | missing
  | denied
  | exists
  | notDirectory
  | isDirectory
  deriving DecidableEq, Repr

/-- The number and the wording of a reason. -/
def FileFault.Reason.wording : FileFault.Reason → Nat × String
  | .missing => (2, "No such file or directory")
  | .denied => (13, "Permission denied")
  | .exists => (17, "File exists")
  | .notDirectory => (20, "Not a directory")
  | .isDirectory => (21, "Is a directory")

/-- A failed access: the reason, and the path as it was asked for. -/
structure FileFault where
  reason : FileFault.Reason
  path : Path
  deriving DecidableEq

/-- The wording of a failed access. -/
def FileFault.message (fault : FileFault) : String :=
  "[Errno " ++ toString fault.reason.wording.1 ++ "] " ++ fault.reason.wording.2 ++ ": " ++
    Quoted.quote fault.path.text

/-- What stands at each location. -/
structure FileSystem where
  at? : Location → Option Node

namespace FileSystem

/-- Only the root directory. -/
def empty : FileSystem := ⟨fun location => if location = [] then some (.directory 0) else none⟩

/-- Where a path leads. -/
def locate (host : Host) (path : Path) : Location := (host.absolute path).names

/-- Every directory on the way to a location. -/
def ancestors (location : Location) : List Location :=
  (List.range location.length).map location.take

/-! ### Inspection -/

/-- Follows names from a location whose nodes so far are directories, to the node at the end. -/
def walk (fs : FileSystem) (done : Location) : List Name → Except FileFault.Reason Node
  | [] =>
    match fs.at? done with
    | some node => .ok node
    | none => .error .missing
  | name :: rest =>
    match fs.at? done with
    | some (.directory _) => walk fs (done ++ [name]) rest
    | some (.file ..) => .error .notDirectory
    | none => .error .missing

/-- The node that a path leads to. -/
def inspect (host : Host) (fs : FileSystem) (path : Path) : Except FileFault Node :=
  match fs.walk [] (locate host path) with
  | .ok node => .ok node
  | .error reason => .error ⟨reason, path⟩

/-- When the node at a path was last modified, if there is one. -/
def modified? (host : Host) (fs : FileSystem) (path : Path) : Option Instant :=
  match fs.inspect host path with
  | .ok node => some node.modified
  | .error _ => none

/-- A directory stands at the path. -/
def isDirectory (host : Host) (fs : FileSystem) (path : Path) : Bool :=
  match fs.inspect host path with
  | .ok (.directory _) => true
  | _ => false

/-- The content of the file at a path. -/
def read (host : Host) (fs : FileSystem) (path : Path) : Except FileFault Octets :=
  match fs.inspect host path with
  | .ok (.file content _ false) => .ok content
  | .ok (.file _ _ true) => .error ⟨.denied, path⟩
  | .ok (.directory _) => .error ⟨.isDirectory, path⟩
  | .error fault => .error fault

/-! ### Change -/

/-- A regular file stands on the way to the location. -/
def isBlocked (fs : FileSystem) (location : Location) : Bool :=
  (ancestors location).any fun above =>
    match fs.at? above with
    | some (.file ..) => true
    | _ => false

/-- Puts a node at a path, replacing what stood there with everything below it, and makes missing
directories on the way. A directory put over a directory keeps what is below. Nothing happens when
a file is in the way. -/
def put (host : Host) (fs : FileSystem) (path : Path) (node : Node) : FileSystem :=
  let here := locate host path
  if fs.isBlocked here then fs
  else
    let keepsBelow := match node, fs.at? here with
      | .directory _, some (.directory _) => true
      | _, _ => false
    ⟨fun location =>
      if location = here then some node
      else if here.isPrefixOf location then (if keepsBelow then fs.at? location else none)
      else match fs.at? location with
        | some old => some old
        | none => if location.isPrefixOf here then some (.directory 0) else none⟩

/-- Takes away what stands at a path, with everything below it. -/
def remove (host : Host) (fs : FileSystem) (path : Path) : FileSystem :=
  let here := locate host path
  ⟨fun location => if here.isPrefixOf location then none else fs.at? location⟩

/-- Sets when the node at a path was last modified. -/
def touch (host : Host) (fs : FileSystem) (path : Path) (modified : Instant) :
    Except FileFault FileSystem :=
  match fs.inspect host path with
  | .error fault => .error fault
  | .ok node =>
    let node := match node with
      | .file content _ denied => .file content modified denied
      | .directory _ => .directory modified
    let here := locate host path
    .ok ⟨fun location => if location = here then some node else fs.at? location⟩

/-- Makes one directory, whose parent must be there. -/
def makeOne (host : Host) (fs : FileSystem) (path : Path) : Except FileFault FileSystem :=
  match fs.inspect host path with
  | .ok _ => .error ⟨.exists, path⟩
  | .error fault =>
    if fault.reason = .missing ∧ (fs.walk [] (locate host path).dropLast).isOk then
      .ok (fs.put host path (.directory 0))
    else .error fault

/-- Makes a directory if none is there yet, and with it, when `depth` allows, the directories above
it that are missing. -/
def makeWithin (host : Host) : (depth : Nat) → FileSystem → Path → Except FileFault FileSystem
  | depth, fs, path =>
    match fs.makeOne host path with
    | .ok fs => .ok fs
    | .error fault =>
      if fault.reason = .missing then
        match depth with
        | 0 => .error fault
        | depth + 1 =>
          match makeWithin host depth fs path.parent with
          | .ok fs => fs.makeOne host path
          | .error fault => .error fault
      else if fs.isDirectory host path then .ok fs
      else .error fault

/-- Makes a directory and the directories above it that are missing; a directory that is there
already will do. -/
def makeDirectory (host : Host) (fs : FileSystem) (path : Path) : Except FileFault FileSystem :=
  makeWithin host path.names.length fs path

end FileSystem

end ArtifactLens
