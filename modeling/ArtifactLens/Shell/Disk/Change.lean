import ArtifactLens.Shell.Disk.Basic

/-!
# Changes to a disk

What a process can do to the names and files of a disk. Each change either fails for one reason and
leaves the disk as it was, or succeeds as a whole.
-/

namespace ArtifactLens.Shell

namespace Disk

/-- Changes a file. -/
def change (disk : Disk) (number : FileNumber) (f : DiskFile → DiskFile) : Disk :=
  match disk.find? number with
  | some file => { disk with files := disk.files.insert number (f file) }
  | none => disk

/-- Changes the names in a directory. -/
def changeEntries (disk : Disk) (moment : Int) (number : FileNumber)
    (f : Table String FileNumber → Table String FileNumber) : Disk :=
  disk.change number fun file =>
    match file.body with
    | .directory entries parent =>
      { file with body := .directory (f entries) parent, modified := moment, changed := moment }
    | _ => file

/-- Lets a spot lead to a file. -/
def bind (disk : Disk) (moment : Int) (spot : Spot) (number : FileNumber) : Disk :=
  (disk.changeEntries moment spot.directory (·.insert spot.name number)).change number
    fun file => { file with changed := moment }

/-- Takes the name of a spot away. -/
def unbind (disk : Disk) (moment : Int) (spot : Spot) : Disk :=
  let disk := disk.changeEntries moment spot.directory (·.erase spot.name)
  match spot.file? with
  | some number => disk.change number fun file => { file with changed := moment }
  | none => disk

/-- Puts a new file at a spot. A directory made in one whose files take over its group does so
too. -/
def add (disk : Disk) (stand : Standpoint) (spot : Spot) (body : FileBody) (mode : Nat) :
    Disk × FileNumber :=
  let number := disk.fresh
  let outer := disk.find? spot.directory
  let handsOn := outer.any (·.mode &&& 0o2000 != 0)
  let (body, mode) : FileBody × Nat := match body with
    | .directory entries _ =>
      (.directory entries spot.directory, if handsOn then mode ||| 0o2000 else mode)
    | other => (other, mode)
  let file : DiskFile :=
    { body, mode, group := if handsOn then (outer.map (·.group)).getD 0 else 0
      accessed := stand.moment, modified := stand.moment, changed := stand.moment }
  let disk : Disk := ⟨⟨disk.files.entries ++ [(number, file)]⟩, number + 1⟩
  (disk.bind stand.moment spot number, number)

/-- Makes a file under a path where nothing is yet. -/
def make (disk : Disk) (stand : Standpoint) (path : String) (body : FileBody) (mode : Nat) :
    Except SystemFault (Disk × FileNumber) :=
  match disk.resolve stand.directory path false with
  | .error fault => .error fault
  | .ok spot =>
    let isDirectory : Bool := match body with
      | .directory .. => true
      | _ => false
    if spot.file?.isSome then .error .exists
    else if spot.isSlashed ∧ !isDirectory then .error .missing
    else .ok (disk.add stand spot body mode)

/-- Makes a directory. -/
def makeDirectory (disk : Disk) (stand : Standpoint) (path : String) (mode : Nat := 0o777) :
    Except SystemFault Disk :=
  (disk.make stand path (.directory .empty root) (mode &&& (0o7777 ^^^ stand.mask))).map (·.1)

/-- Makes a link. -/
def makeLink (disk : Disk) (stand : Standpoint) (target path : String) : Except SystemFault Disk :=
  if target = "" then .error .missing
  else (disk.make stand path (.link target) 0o777).map (·.1)

/-- Gives a file a further name. -/
def shareName (disk : Disk) (stand : Standpoint) (source path : String) (follows : Bool := false) :
    Except SystemFault Disk :=
  match disk.inspect stand.directory source follows with
  | .error fault => .error fault
  | .ok (number, file) =>
    match disk.resolve stand.directory path false with
    | .error fault => .error fault
    | .ok spot =>
      if spot.file?.isSome then .error .exists
      else if spot.isSlashed then .error .missing
      else if file.isDirectory then .error .notPermitted
      else .ok (disk.bind stand.moment spot number)

/-- The spot of a path that is there; a link at the end is not followed. -/
def spotOf (disk : Disk) (here : FileNumber) (path : String) :
    Except SystemFault (Spot × FileNumber) :=
  match disk.resolve here path false with
  | .error fault => .error fault
  | .ok spot =>
    match spot.file? with
    | none => .error .missing
    | some number => .ok (spot, number)

/-- The spot of a path whose name is to go. A slash at the end leads to a directory, but never through
a link. -/
def spotToLeave (disk : Disk) (here : FileNumber) (path : String) :
    Except SystemFault (Spot × FileNumber) :=
  if path.endsWith "/" ∧ path.toList.any (· != '/') then
    match disk.spotOf here (path.dropEndWhile '/').toString with
    | .error fault => .error fault
    | .ok (spot, number) =>
      if disk.isDirectory number then .ok (spot, number) else .error .notDirectory
  else disk.spotOf here path

/-- The name of the spot stands for a directory by its place alone. -/
def isFixed (spot : Spot) : Bool := spot.name == "." || spot.name == ".." || spot.name == "/"

/-- Takes away the name of a file that is no directory. -/
def removeFile (disk : Disk) (stand : Standpoint) (path : String) : Except SystemFault Disk :=
  match disk.spotToLeave stand.directory path with
  | .error fault => .error fault
  | .ok (spot, number) =>
    if disk.isDirectory number then .error .isDirectory else .ok (disk.unbind stand.moment spot)

/-- Takes away an empty directory. -/
def removeDirectory (disk : Disk) (stand : Standpoint) (path : String) : Except SystemFault Disk :=
  match disk.spotToLeave stand.directory path with
  | .error fault => .error fault
  | .ok (spot, number) =>
    if spot.name = "." then .error .invalid
    else if spot.name = ".." then .error .notEmpty
    else if spot.name = "/" then .error .busy
    else if !disk.isDirectory number then .error .notDirectory
    else if !(disk.entries number).isEmpty then .error .notEmpty
    else .ok (disk.unbind stand.moment spot)

/-- Gives a file another name, under which another file may have been found before. -/
def rename (disk : Disk) (stand : Standpoint) (source target : String) : Except SystemFault Disk := do
  let (old, number) ← disk.spotToLeave stand.directory source
  let new ← disk.resolve stand.directory target false
  let isDirectory := disk.isDirectory number
  if isFixed old ∨ isFixed new then throw .busy
  if isDirectory ∧ disk.isWithin new.directory number disk.files.size then throw .invalid
  let moved : Disk :=
    let disk := (disk.unbind stand.moment old).bind stand.moment new number
    disk.change number fun file =>
      match file.body with
      | .directory entries _ => { file with body := .directory entries new.directory }
      | _ => file
  match new.file? with
  | none => if new.isSlashed ∧ !isDirectory then throw .notDirectory else return moved
  | some other =>
    if other = number then return disk
    else if isDirectory ∧ !disk.isDirectory other then throw .notDirectory
    else if !isDirectory ∧ disk.isDirectory other then throw .isDirectory
    else if !(disk.entries other).isEmpty then throw .notEmpty
    else return moved

/-- Gives a store of octets a content. -/
def write (disk : Disk) (moment : Int) (number : FileNumber) (content : String) : Disk :=
  disk.change number fun file =>
    { file with body := .octets content, modified := moment, changed := moment }

end Disk

end ArtifactLens.Shell
