import ArtifactLens.Shell.Regex.Matching
import ArtifactLens.Shell.Regex.Reading
import ArtifactLens.Shell.Utility.Making
import ArtifactLens.Shell.Utility.Permission
import ArtifactLens.Shell.Utility.Status

/-!
# Terms of a search for files

A search goes through directories and tries a term on all that it comes across. A term is a
condition on a file, an act, which holds unless it fails, or terms joined together.
-/

namespace ArtifactLens.Shell

namespace Utility

namespace Finding

/-- A number that is asked for: one that is more, less, or just as much. -/
structure Amount where
  relation : Ordering
  count : Nat
  deriving DecidableEq, Repr

/-- A value is as it is asked for. -/
def Amount.fits (amount : Amount) (value : Nat) : Bool := compare value amount.count == amount.relation

/-- A moment of a file. -/
inductive Clock where
  | access
  | status
  | change
  deriving DecidableEq, Repr

/-- The moment of a file. -/
def Clock.of (clock : Clock) (file : DiskFile) : Int :=
  match clock with
  | .access => file.accessed
  | .status => file.changed
  | .change => file.modified

/-- A piece of a format. -/
inductive FormatPiece where
  | text (text : String)
  /-- What stands between the percent sign and the letter, the letter, and the one after it. -/
  | mark (marks : StatMarks) (letter : Char) (more : Char)
  /-- Nothing more is put out. -/
  | stop

/-- What happens to a command that is run. -/
structure Calling where
  words : List String
  /-- The command is run for many files at once. -/
  together : Bool := false
  /-- It is run in the directory of the file. -/
  inPlace : Bool := false
  /-- It is run only after a yes. -/
  asks : Bool := false
  /-- The place of the term among all, which tells commands apart. -/
  index : Nat

/-- A condition on a file. -/
inductive Condition where
  | named (pattern : String) (ignoresCase : Bool)
  | pathLike (pattern : String) (ignoresCase : Bool)
  | linkLike (pattern : String) (ignoresCase : Bool)
  | matching (regex : Regex) (ignoresCase : Bool)
  | kind (letters : List Char) (isOther : Bool)
  | empty
  /-- The size, counted in units. -/
  | size (amount : Amount) (unit : Nat)
  | links (amount : Amount)
  | number (amount : Amount)
  | owner (amount : Amount)
  | group (amount : Amount)
  | nameless (isGroup : Bool)
  | same (number : FileNumber)
  /-- All of the bits, some of them, or just these; for directories other ones may be meant. -/
  | permission (manner : Char) (bits directoryBits : Nat)
  | newer (clock : Clock) (moment : Int)
  /-- So many units of nanoseconds have passed, but for some before the count begins. -/
  | age (clock : Clock) (relation : Ordering) (moment : Int) (unit : Nat)
  | executable
  | readable
  | truth (value : Bool)

/-- An act on a file. -/
inductive Act where
  /-- Puts out the path, to a file if one is named. -/
  | print (ending : Char) (target : Option String)
  | format (pieces : List FormatPiece) (target : Option String)
  | list (target : Option String)
  | delete
  | prune
  | quit
  | call (calling : Calling)

end Finding

/-- A term. -/
inductive FindTerm where
  | condition (condition : Finding.Condition)
  | act (act : Finding.Act)
  | negation (term : FindTerm)
  | both (first second : FindTerm)
  | either (first second : FindTerm)
  /-- Both are tried, and the second decides. -/
  | next (first second : FindTerm)

namespace Finding

/-- How a search goes about. -/
structure Orders where
  least : Nat := 0
  most : Option Nat := none
  /-- What is in a directory comes before it. -/
  depthFirst : Bool := false
  /-- Links are followed, or those that are named as starting points. -/
  follows : Bool := false
  followsStart : Bool := false

/-- What the search came across. -/
structure Found where
  /-- The path, and how much of it is the starting point. -/
  path : String
  start : String
  depth : Nat
  number : FileNumber
  file : DiskFile

/-! ### Conditions -/

/-- A pattern, as a text spells it. -/
def patternOf (text : String) : List PatternElement :=
  Pattern.ofChars (text.toList.map fun c => ⟨c, false⟩)

/-- A text is like a pattern. -/
def isLike (pattern text : String) (ignoresCase : Bool) : Bool :=
  let fold (text : String) : String := if ignoresCase then text.map Char.toLower else text
  Pattern.isMatch (patternOf (fold pattern)) (fold text).toList

/-- The last name of a path with the slashes after it. -/
def nameWithSlashes (path : String) : String :=
  let reversed := path.toList.reverse
  let slashes := reversed.takeWhile (· == '/')
  let name := (reversed.drop slashes.length).takeWhile (· != '/')
  String.ofList (slashes ++ name).reverse

/-- The letter of the kind of a file. -/
def kindOfFile (file : DiskFile) : Char :=
  match file.body with
  | .octets _ | .program _ => 'f'
  | .directory .. => 'd'
  | .link _ => 'l'
  | .device _ => 'c'

/-- The file that is seen where a link is looked at the other way. -/
def otherSight (disk : Disk) (orders : Orders) (here : FileNumber) (found : Found) : DiskFile :=
  match disk.inspect here found.path (!orders.follows) with
  | .ok (_, file) => file
  | .error _ => found.file

/-- A condition holds of a file. -/
def Condition.holds (disk : Disk) (orders : Orders) (here : FileNumber) (found : Found) :
    Condition → Bool
  | .named pattern ignoresCase => isLike pattern (lastName found.path) ignoresCase
  | .pathLike pattern ignoresCase => isLike pattern found.path ignoresCase
  | .linkLike pattern ignoresCase =>
    match found.file.body with
    | .link target => isLike pattern target ignoresCase
    | _ => false
  | .matching regex ignoresCase =>
    let subject : Regex.Subject :=
      { chars := (found.path.toList.map Char.toNat).toArray, ignoresCase }
    (regex.search subject 0 fun start spot =>
      start == 0 && spot.position == subject.chars.size).isSome
  | .kind letters isOther =>
    letters.contains (kindOfFile (if isOther then otherSight disk orders here found else found.file))
  | .empty =>
    match found.file.body with
    | .octets content => content == ""
    | .directory entries _ => entries.entries.isEmpty
    | _ => false
  | .size amount unit => amount.fits ((found.file.size + unit - 1) / unit)
  | .links amount => amount.fits (disk.linkCount found.number)
  | .number amount => amount.fits (1048576 + found.number)
  | .owner amount => amount.fits found.file.owner
  | .group amount => amount.fits found.file.group
  | .nameless isGroup =>
    let holder := if isGroup then found.file.group else found.file.owner
    !(Disk.accounts.any (·.2.1 == holder))
  | .same other => found.number == other
  | .permission manner bits directoryBits =>
    let wanted := if found.file.isDirectory then directoryBits else bits
    let mode := found.file.mode
    match manner with
    | '-' => mode &&& wanted == wanted
    | '/' => wanted == 0 || mode &&& wanted != 0
    | _ => mode == wanted
  | .newer clock moment => moment < clock.of found.file
  | .age clock relation moment unit =>
    let time := clock.of found.file
    match relation with
    | .gt => time < moment
    | .lt => moment < time
    | .eq => moment < time && time ≤ moment + unit
  | .executable => found.file.isDirectory || found.file.mode &&& 0o111 != 0
  | .readable => true
  | .truth value => value

end Finding

end Utility

end ArtifactLens.Shell
