import ArtifactLens.Shell.Arithmetic
import ArtifactLens.Shell.Utility.Filing

/-!
# Permissions

Permissions are a number of twelve bits. Words such as `u+rwx,go-w` or octal numerals say how they
are changed (`ModeChange.parse?`, `ModeChange.apply`), and ten letters show them beside the kind of
a file (`modeLetters`). The program `chmod` puts the words to work.
-/

namespace ArtifactLens.Shell

namespace Utility

/-! ### Showing permissions -/

/-- The letters of the permissions of a mode. -/
def permissionLetters (mode : Nat) : String :=
  let letter (bit : Nat) (c : Char) : Char := if mode &&& bit != 0 then c else '-'
  let last (special run : Nat) (both alone : Char) : Char :=
    if mode &&& special != 0 then (if mode &&& run != 0 then both else alone) else letter run 'x'
  String.ofList [letter 0o400 'r', letter 0o200 'w', last 0o4000 0o100 's' 'S', letter 0o40 'r',
    letter 0o20 'w', last 0o2000 0o10 's' 'S', letter 4 'r', letter 2 'w', last 0o1000 1 't' 'T']

/-- The letter of the kind of a file. -/
def kindLetter (file : DiskFile) : Char :=
  match file.body with
  | .octets _ | .program _ => '-'
  | .directory .. => 'd'
  | .link _ => 'l'
  | .device _ => 'c'

/-- The kind and the permissions of a file in letters. -/
def modeLetters (file : DiskFile) : String :=
  String.singleton (kindLetter file) ++ permissionLetters file.mode

/-- A mode in octal digits. -/
def octalMode (mode : Nat) : String :=
  String.ofList (Digit.digitsFrom 8 (mode.log2 + 1) mode).reverse

/-! ### Words for permissions -/

/-- What the bits of a change come from. -/
inductive ModeSource where
  | given
  /-- Bits that one class has, for all classes. -/
  | existing
  /-- Given bits, and leave to run if some class has it. -/
  | runIfAny
  deriving DecidableEq, Repr

/-- One change of permissions. -/
structure ModeChange where
  operator : Char
  source : ModeSource
  /-- The bits of the classes that are named; none if no class is. -/
  affected : Nat
  value : Nat
  /-- The bits that the words speak of. -/
  mentioned : Nat

namespace ModeChange

/-- All bits of permissions. -/
def allBits : Nat := 0o7777

/-- The bits of the class of a letter. -/
def classBits? : Char → Option Nat
  | 'u' => some 0o4700
  | 'g' => some 0o2070
  | 'o' => some 0o1007
  | 'a' => some allBits
  | _ => none

/-- The bits of a letter for all classes. -/
def letterBits? : Char → Option Nat
  | 'r' => some 0o444
  | 'w' => some 0o222
  | 'x' => some 0o111
  | 's' => some 0o6000
  | 't' => some 0o1000
  | 'X' => some 0
  | _ => none

/-- The value of octal digits, if it is a mode. -/
def octal? (digits : List Char) : Option Nat :=
  let value := Arithmetic.digitsValue 8 digits
  if digits.isEmpty ∨ allBits < value then none else some value

/-- The character is an octal digit. -/
def isOctal (c : Char) : Bool := '0' ≤ c && c ≤ '7'

/-- Reads what follows the classes of a clause; `done` holds the changes read, in reverse. -/
def changesFrom (affected : Nat) (done : List ModeChange) :
    (measure : Nat) → List Char → Option (List ModeChange × List Char)
  | 0, _ => none
  | measure + 1, text =>
    match text with
    | operator :: rest =>
      if !"=+-".contains operator then some (done, text)
      else
        match rest.takeWhile isOctal with
        | [] =>
          match rest with
          | c :: more =>
            if c = 'u' ∨ c = 'g' ∨ c = 'o' then
              let value := ((classBits? c).getD 0) &&& 0o777
              let mentioned := if affected = 0 then value else affected &&& value
              changesFrom affected (⟨operator, .existing, affected, value, mentioned⟩ :: done) measure
                more
            else letters operator rest measure
          | [] => letters operator rest measure
        | digits =>
          let rest := rest.drop digits.length
          if affected ≠ 0 ∨ (rest ≠ [] ∧ rest.head? ≠ some ',') then none
          else
            match octal? digits with
            | some value =>
              some (⟨operator, .given, allBits, value, allBits⟩ :: done, rest)
            | none => none
    | [] => some (done, [])
where
  /-- Reads the letters after an operator. -/
  letters (operator : Char) (text : List Char) (measure : Nat) :
      Option (List ModeChange × List Char) :=
    let letters := text.takeWhile fun c => (letterBits? c).isSome
    let value := letters.foldl (fun bits c => bits ||| (letterBits? c).getD 0) 0
    let source : ModeSource := if letters.contains 'X' then .runIfAny else .given
    let mentioned := if affected = 0 then value else affected &&& value
    changesFrom affected (⟨operator, source, affected, value, mentioned⟩ :: done) measure
      (text.drop letters.length)

/-- Reads clauses; `done` holds the changes read, in reverse. -/
def clausesFrom (done : List ModeChange) : (measure : Nat) → List Char → Option (List ModeChange)
  | 0, _ => none
  | measure + 1, text =>
    let classes := text.takeWhile fun c => (classBits? c).isSome
    let affected := classes.foldl (fun bits c => bits ||| (classBits? c).getD 0) 0
    let rest := text.drop classes.length
    if !(rest.head?.any ("=+-".contains ·)) then none
    else
      match changesFrom affected done (rest.length + 1) rest with
      | some (done, ',' :: rest) => clausesFrom done measure rest
      | some (done, []) => some done.reverse
      | _ => none

/-- The changes that a text says. -/
def parse? (text : String) : Option (List ModeChange) :=
  let chars := text.toList
  if chars.head?.any isOctal then
    if chars.all isOctal then
      (octal? chars).map fun value =>
        let mentioned := if chars.length < 5 then (value &&& 0o7000) ||| 0o777 else allBits
        [⟨'=', .given, allBits, value, mentioned⟩]
    else none
  else clausesFrom [] (chars.length + 1) chars

/-- Carries out a change. The special bits of a directory stay unless they are spoken of; without a
class the mask holds bits back. -/
def applyOne (isDirectory : Bool) (mask mode : Nat) (change : ModeChange) : Nat :=
  let kept := if isDirectory then 0o6000 &&& (allBits ^^^ change.mentioned) else 0
  let value := match change.source with
    | .given => change.value
    | .existing =>
      let bits := change.value &&& mode
      let spread (bit : Nat) : Nat := if bits &&& bit != 0 then bit else 0
      bits ||| spread 0o444 ||| spread 0o222 ||| spread 0o111
    | .runIfAny =>
      if mode &&& 0o111 != 0 || isDirectory then change.value ||| 0o111 else change.value
  let value := value &&& (if change.affected = 0 then allBits ^^^ mask else change.affected) &&&
    (allBits ^^^ kept)
  match change.operator with
  | '=' =>
    let preserved := (if change.affected = 0 then 0 else allBits ^^^ change.affected) ||| kept
    (mode &&& preserved) ||| value
  | '+' => mode ||| value
  | _ => mode &&& (allBits ^^^ value)

/-- Carries out changes. -/
def apply (isDirectory : Bool) (mask mode : Nat) (changes : List ModeChange) : Nat :=
  changes.foldl (applyOne isDirectory mask) (mode &&& allBits)

end ModeChange

/-! ### Changing permissions -/

/-- How permissions are changed. -/
structure ModeOrders where
  changes : List ModeChange
  recursive : Bool := false
  /-- All files are told of. -/
  verbose : Bool := false
  /-- Files whose permissions have changed are told of. -/
  tellsChanges : Bool := false
  silent : Bool := false
  /-- It is an error if the mask holds bits back. -/
  diagnoses : Bool := false

/-- What is told of a change. -/
def modeReport (name : String) (old new : Nat) : String :=
  let shown (mode : Nat) : String :=
    Digit.padLeft 4 '0' (octalMode mode) ++ " (" ++ permissionLetters mode ++ ")"
  if old = new then "mode of " ++ name ++ " retained as " ++ shown new ++ "\n"
  else "mode of " ++ name ++ " changed from " ++ shown old ++ " to " ++ shown new ++ "\n"

/-- Changes the permissions of a file, and of those below it. -/
def changeMode (orders : ModeOrders) (number : FileNumber) (path : String) :
    (measure : Nat) → Filing Unit
  | 0 => return
  | measure + 1 => do
    let some file ← Filing.file? number | return
    let name ← Filing.quoteName path
    if file.isLink then
      if orders.verbose then
        Filing.say ("neither symbolic link " ++ name ++ " nor referent has been changed\n")
    else
      let mask := (← get).stand.mask
      let mode := ModeChange.apply file.isDirectory mask file.mode orders.changes
      let moment ← Filing.now
      Filing.change number fun file => { file with mode, changed := moment }
      if orders.verbose || (orders.tellsChanges && mode != file.mode) then
        Filing.say (modeReport name file.mode mode)
      if orders.diagnoses then
        let expected := ModeChange.apply file.isDirectory 0 file.mode orders.changes
        if mode &&& (ModeChange.allBits ^^^ expected) != 0 then
          Filing.complain (path ++ ": new permissions are " ++ permissionLetters mode ++ ", not " ++
            permissionLetters expected)
      if orders.recursive ∧ file.isDirectory then
        let disk := (← get).disk
        (disk.list number).forM fun entry =>
          match disk.entry? number entry with
          | some inner => changeMode orders inner (pathBelow path entry) measure
          | none => pure ()

/-- Changes the permissions under a path. -/
def changeModeOf (orders : ModeOrders) (path : String) : Filing Unit := do
  let name ← Filing.quoteName path
  match ← Filing.inspect path with
  | .ok (number, _) => changeMode orders number path 1000
  | .error fault =>
    if !orders.silent then
      if (← Filing.inspect path false).isOk ∧ fault = .missing then
        Filing.complain ("cannot operate on dangling symlink " ++ name)
      else Filing.complainOf ("cannot access " ++ name) fault
    else modify fun state => { state with failed := true }
    if orders.verbose then Filing.say (name ++ " could not be accessed\n")

/-- The letters that an argument of `chmod` may begin with as a mode of its own. -/
def modeOptionLetters : String := "rwxXstugoa,+=01234567"

/-- Takes the modes out of the arguments of `chmod` that look like options. -/
def splitModeOptions (modes kept : List String) : List String → List String × List String
  | [] => (modes.reverse, kept.reverse)
  | "--" :: rest => (modes.reverse, kept.reverse ++ "--" :: rest)
  | arg :: rest =>
    match arg.toList with
    | '-' :: c :: _ =>
      if modeOptionLetters.contains c then splitModeOptions (arg :: modes) kept rest
      else splitModeOptions modes (arg :: kept) rest
    | _ => splitModeOptions modes (arg :: kept) rest

/-- The program `chmod`. -/
def chmod : Utility := fun call =>
  let (modes, args) := splitModeOptions [] [] call.args
  let accepted : Accepted :=
    { letters := "RcfvzPN:"
      names := [("recursive", 'R'), ("changes", 'c'), ("silent", 'f'), ("quiet", 'f'),
        ("verbose", 'v'), ("reference", 'N'), ("preserve-root", 'P'), ("no-preserve-root", 'z')] }
  accepted.read { call with args } 1 fun arguments =>
    let reference? := arguments.value? 'N'
    let orders (changes : List ModeChange) : ModeOrders :=
      { changes, recursive := arguments.has 'R'
        verbose := (arguments.last? ['c', 'v']).any (·.1 == 'v')
        tellsChanges := (arguments.last? ['c', 'v']).any (·.1 == 'c')
        silent := arguments.has 'f', diagnoses := !modes.isEmpty }
    let change (changes : List ModeChange) (paths : List String) : Job :=
      Filing.job call (paths.forM (changeModeOf (orders changes)))
    let modeText? := if modes.isEmpty then none else some (String.intercalate "," modes)
    match reference?, modeText?, arguments.operands with
    | some _, some _, _ => Job.misuse call "cannot combine mode and --reference options"
    | some _, none, [] => Job.misuse call "missing operand"
    | some path, none, paths =>
      .disk fun disk stand =>
        match disk.inspect stand.directory path with
        | .ok (_, file) => (disk, change [⟨'=', .given, 0o7777, file.mode, 0o7777⟩] paths)
        | .error fault =>
          (disk, Job.fail call
            ("failed to get attributes of " ++ call.quoteName path ++ ": " ++ fault.message))
    | none, some _, [] => Job.misuse call "missing operand"
    | none, none, [] => Job.misuse call "missing operand"
    | none, none, [mode] => Job.misuse call ("missing operand after " ++ call.quote mode)
    | none, some mode, paths =>
      match ModeChange.parse? mode with
      | some changes => change changes paths
      | none => Job.misuse call ("invalid mode: " ++ call.quote mode)
    | none, none, mode :: paths =>
      match ModeChange.parse? mode with
      | some changes => change changes paths
      | none => Job.misuse call ("invalid mode: " ++ call.quote mode)

end Utility

end ArtifactLens.Shell
