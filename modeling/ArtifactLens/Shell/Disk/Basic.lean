import ArtifactLens.Table

/-!
# The disk of a machine

The files among which commands run. A file has a number; a directory is a file that leads from names
to numbers, so that several names may lead to one file. `Disk.resolve` follows a path to its spot,
through links and through `..`. Contents are octet texts, and moments are nanoseconds.
-/

namespace ArtifactLens.Shell

/-- Why a request to the system fails. -/
inductive SystemFault where
  | missing
  | denied
  | notPermitted
  | exists
  | notDirectory
  | isDirectory
  | notEmpty
  | busy
  | badDescriptor
  | brokenPipe
  | noSpace
  | badFormat
  | invalid
  | tooManyLinks
  | nameTooLong
  deriving DecidableEq, Repr

/-- The wording of a system fault. -/
def SystemFault.message : SystemFault → String
  | .missing => "No such file or directory"
  | .denied => "Permission denied"
  | .notPermitted => "Operation not permitted"
  | .exists => "File exists"
  | .notDirectory => "Not a directory"
  | .isDirectory => "Is a directory"
  | .notEmpty => "Directory not empty"
  | .busy => "Device or resource busy"
  | .badDescriptor => "Bad file descriptor"
  | .brokenPipe => "Broken pipe"
  | .noSpace => "No space left on device"
  | .badFormat => "Exec format error"
  | .invalid => "Invalid argument"
  | .tooManyLinks => "Too many levels of symbolic links"
  | .nameTooLong => "File name too long"

/-- The number of a file. -/
abbrev FileNumber := Nat

/-- Files that are no stores of octets. -/
inductive Device where
  /-- Swallows what is written and holds nothing. -/
  | null
  /-- Holds an endless run of zeros. -/
  | zero
  /-- Has no room. -/
  | full
  /-- A descriptor of the process that opens it. -/
  | descriptor (number : Nat)
  deriving DecidableEq, Repr

/-- What a file holds. -/
inductive FileBody where
  | octets (content : String)
  | directory (entries : Table String FileNumber) (parent : FileNumber)
  | link (target : String)
  | device (device : Device)
  /-- A program that the machine has of its own. -/
  | program (name : String)

/-- A file of a disk. -/
structure DiskFile where
  body : FileBody
  mode : Nat
  owner : Nat := 0
  group : Nat := 0
  accessed : Int := 0
  modified : Int := 0
  /-- When anything about the file changed last. -/
  changed : Int := 0

namespace DiskFile

/-- The file is a directory. -/
def isDirectory (file : DiskFile) : Bool :=
  match file.body with
  | .directory .. => true
  | _ => false

/-- The file is a link. -/
def isLink (file : DiskFile) : Bool :=
  match file.body with
  | .link _ => true
  | _ => false

/-- The file is a store of octets. -/
def isRegular (file : DiskFile) : Bool :=
  match file.body with
  | .octets _ | .program _ => true
  | _ => false

/-- What a store of octets holds; any other file holds nothing. -/
def content (file : DiskFile) : String :=
  match file.body with
  | .octets content => content
  | _ => ""

/-- The size of a file. -/
def size (file : DiskFile) : Nat :=
  match file.body with
  | .octets content => content.length
  | .link target => target.length
  | .directory .. => 4096
  | _ => 0

/-- The file can be run. -/
def isExecutable (file : DiskFile) : Bool := file.isRegular && file.mode &&& 0o111 != 0

end DiskFile

/-- A disk: files by number, and the first number from which on all are free. -/
structure Disk where
  files : Table FileNumber DiskFile
  fresh : FileNumber

/-- From where and when a process acts on a disk. -/
structure Standpoint where
  directory : FileNumber
  /-- Permissions that new files lack. -/
  mask : Nat := 0o022
  /-- Nanoseconds since the beginning of 1970. -/
  moment : Int := 0

/-- Where a path leads: a name in a directory, and the file of that name if there is one. -/
structure Spot where
  directory : FileNumber
  name : String
  file? : Option FileNumber
  /-- The path ends in a slash, so that only a directory will do. -/
  isSlashed : Bool := false

namespace Disk

/-- The root, which every absolute path starts from. -/
def root : FileNumber := 2

/-- The file of a number. -/
def find? (disk : Disk) (number : FileNumber) : Option DiskFile := disk.files.get? number

/-- A directory has the number. -/
def isDirectory (disk : Disk) (number : FileNumber) : Bool :=
  (disk.find? number).any DiskFile.isDirectory

/-- The names in a directory and the numbers that they lead to. -/
def entries (disk : Disk) (number : FileNumber) : List (String × FileNumber) :=
  match disk.find? number with
  | some { body := .directory entries _, .. } => entries.entries
  | _ => []

/-- The number that a name in a directory leads to. -/
def entry? (disk : Disk) (number : FileNumber) (name : String) : Option FileNumber :=
  match disk.find? number with
  | some { body := .directory entries _, .. } => entries.get? name
  | _ => none

/-- The directory above one; the root is above itself. -/
def above (disk : Disk) (number : FileNumber) : FileNumber :=
  match disk.find? number with
  | some { body := .directory _ parent, .. } => parent
  | _ => root

/-- The names in a directory, in order. -/
def list (disk : Disk) (number : FileNumber) : List String :=
  ((disk.entries number).map (·.1)).mergeSort fun a b => a ≤ b

/-! ### Following paths -/

/-- The names in a path. A slash at the end counts as an empty name. -/
def namesOf (path : String) : List String :=
  let names := (path.splitOn "/").filter (· != "")
  if path.endsWith "/" ∧ names ≠ [] then names ++ [""] else names

/-- The most links that lead on from a path. -/
def mostLinks : Nat := 40

/-- The longest name. -/
def longestName : Nat := 255

/-- The length from which on a path is too long. -/
def pathLimit : Nat := 4096

/-- Follows names from a spot. A link at the end is followed if `followsLast` holds; the last name
need not be there. `links` is the number of links that may still be followed. -/
def follow (disk : Disk) (followsLast : Bool) :
    (measure links : Nat) → Spot → List String → Except SystemFault Spot
  | 0, _, _, _ => .error .tooManyLinks
  | _ + 1, _, spot, [] => .ok spot
  | measure + 1, links, spot, name :: rest =>
    match spot.file? with
    | none => .error .missing
    | some here =>
      if !disk.isDirectory here then .error .notDirectory
      else if name = "" then .ok { spot with isSlashed := true }
      else if name = "." then follow disk followsLast measure links ⟨here, ".", some here, false⟩ rest
      else if name = ".." then
        follow disk followsLast measure links ⟨here, "..", some (disk.above here), false⟩ rest
      else if name.length > longestName then .error .nameTooLong
      else
        let there : Spot := ⟨here, name, disk.entry? here name, false⟩
        match there.file? with
        | none =>
          if rest.isEmpty then .ok there
          else if rest = [""] then .ok { there with isSlashed := true }
          else .error .missing
        | some number =>
          match disk.find? number with
          | some { body := .link target, .. } =>
            if rest.isEmpty ∧ !followsLast then .ok there
            else
              match links with
              | 0 => .error .tooManyLinks
              | links + 1 =>
                let start : Spot := if target.startsWith "/" then ⟨root, "/", some root, false⟩
                  else ⟨here, ".", some here, false⟩
                let names := namesOf target
                -- A slash at the end of the target is needless before further names.
                let names := if rest.isEmpty then names else names.filter (· != "")
                follow disk followsLast measure links start (names ++ rest)
          | _ => follow disk followsLast measure links there rest

/-- The spot that a path leads to from a directory. -/
def resolve (disk : Disk) (here : FileNumber) (path : String) (followsLast : Bool := true) :
    Except SystemFault Spot :=
  if path = "" then .error .missing
  else if path.length ≥ pathLimit then .error .nameTooLong
  else
    let start : Spot := if path.startsWith "/" then ⟨root, "/", some root, false⟩
      else ⟨here, ".", some here, false⟩
    disk.follow followsLast (pathLimit * (mostLinks + 2)) mostLinks start (namesOf path)

/-- The file that a path leads to from a directory, with its number. -/
def inspect (disk : Disk) (here : FileNumber) (path : String) (followsLast : Bool := true) :
    Except SystemFault (FileNumber × DiskFile) :=
  match disk.resolve here path followsLast with
  | .error fault => .error fault
  | .ok spot =>
    match spot.file? with
    | none => .error .missing
    | some number =>
      match disk.find? number with
      | some file => .ok (number, file)
      | none => .error .missing

/-! ### What can be asked -/

/-- The names that lead to a directory from the root, in reverse. -/
def wayFrom (disk : Disk) : (measure : Nat) → FileNumber → List String
  | 0, _ => []
  | measure + 1, number =>
    if number = root then []
    else
      let parent := disk.above number
      match (disk.entries parent).find? (·.2 == number) with
      | some (name, _) => name :: wayFrom disk measure parent
      | none => []

/-- The path of a directory. -/
def pathOf (disk : Disk) (number : FileNumber) : String :=
  "/" ++ String.intercalate "/" (disk.wayFrom disk.files.size number).reverse

/-- The path of the file at a spot, without links. -/
def pathOfSpot (disk : Disk) (spot : Spot) : String :=
  match spot.file? with
  | some number => if disk.isDirectory number then disk.pathOf number else named
  | none => named
where
  /-- The path of the directory with the name after it. -/
  named : String :=
    let path := disk.pathOf spot.directory
    if path = "/" then "/" ++ spot.name else path ++ "/" ++ spot.name

/-- How many names lead to a file; a directory has its name, `.`, and the `..` of each directory in
it. -/
def linkCount (disk : Disk) (number : FileNumber) : Nat :=
  if disk.isDirectory number then
    2 + ((disk.entries number).filter fun entry => disk.isDirectory entry.2).length
  else
    disk.files.values.foldl (fun count file =>
      match file.body with
      | .directory entries _ => count + (entries.entries.filter (·.2 == number)).length
      | _ => count) 0

/-- One directory is another or lies below it. -/
def isWithin (disk : Disk) (inner outer : FileNumber) : (measure : Nat) → Bool
  | 0 => false
  | measure + 1 =>
    inner == outer || (inner != root && disk.isWithin (disk.above inner) outer measure)

end Disk

end ArtifactLens.Shell
