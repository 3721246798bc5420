import ArtifactLens.Shell.Builtin.Names
import ArtifactLens.Shell.Utility.Basic

/-!
# Saying things

Programs that put out their arguments, in one form or another, or something about the machine, and
programs that only have a status.
-/

namespace ArtifactLens.Shell

namespace Utility

/-! ### Arguments -/

/-- The octet that a letter stands for after a backslash. -/
def echoLetter? (c : Char) : Option Char :=
  match c with
  | '\\' => some '\\'
  | 'a' => some '\x07'
  | 'b' => some '\x08'
  | 'e' => some '\x1b'
  | 'f' => some '\x0c'
  | 'n' => some '\n'
  | 'r' => some '\r'
  | 't' => some '\t'
  | 'v' => some '\x0b'
  | _ => none

/-- Reads what follows a backslash, which stands for itself before anything that is no escape: the
character, and how much of the text belongs to it. -/
def echoEscape (text : List Char) : List Char × Nat :=
  let isOctal (c : Char) : Bool := '0' ≤ c && c ≤ '7'
  let octal (skipped : Nat) : List Char × Nat :=
    let digits := ((text.drop skipped).take 3).takeWhile isOctal
    ([Char.ofNat (Arithmetic.digitsValue 8 digits % 256)], skipped + digits.length)
  match text with
  | [] => (['\\'], 0)
  | '0' :: _ => octal 1
  | 'x' :: rest =>
    let digits := (rest.take 2).takeWhile fun c => (Digit.hexValue? c).isSome
    if digits.isEmpty then (['\\', 'x'], 1)
    else ([Char.ofNat (Digit.hexNumeral digits)], digits.length + 1)
  | c :: _ =>
    if isOctal c then octal 0
    else
      match echoLetter? c with
      | some d => ([d], 1)
      | none => (['\\', c], 1)

/-- Replaces the escapes of a text, of which `\c` ends all output; tells whether it did not. `done`
holds the text in reverse. -/
def echoText (done : List Char) : (measure : Nat) → List Char → String × Bool
  | 0, _ | _ + 1, [] => (String.ofList done.reverse, true)
  | measure + 1, '\\' :: rest =>
    if rest.head? = some 'c' then (String.ofList done.reverse, false)
    else
      let (text, size) := echoEscape rest
      echoText (text.reverse ++ done) measure (rest.drop size)
  | measure + 1, c :: rest => echoText (c :: done) measure rest

/-- The options of `echo`: whether a newline ends the output, and whether escapes are replaced. -/
def echoOptions (newline escapes : Bool) : List String → Bool × Bool × List String
  | [] => (newline, escapes, [])
  | arg :: rest =>
    match arg.toList with
    | '-' :: c :: more =>
      let letters := c :: more
      if letters.all fun d => d == 'n' || d == 'e' || d == 'E' then
        let escapes := letters.foldl (fun on d =>
          if d = 'e' then true else if d = 'E' then false else on) escapes
        echoOptions (newline && !letters.contains 'n') escapes rest
      else (newline, escapes, arg :: rest)
    | _ => (newline, escapes, arg :: rest)

/-- The program `echo`. -/
def echo : Utility := fun call =>
  let isPosix := (call.value? "POSIXLY_CORRECT").isSome
  let hasOptions := !isPosix || call.args.head? == some "-n"
  if hasOptions ∧ (call.args = ["--help"] ∨ call.args = ["--version"]) then
    ({ letters := "" } : Accepted).read call 1 fun _ => .exit 0
  else
    let (newline, escapes, words) := if hasOptions then echoOptions true false call.args
      else (true, false, call.args)
    let text := String.intercalate " " words
    let (text, goesOn) := if escapes ∨ isPosix then echoText [] (text.length + 1) text.toList
      else (text, true)
    Job.answer call (if newline ∧ goesOn then text ++ "\n" else text)

/-- A program that only has a status. -/
def settled (status : Nat) : Utility := fun _ => .exit status

/-! ### Names of files -/

/-- A path without the slashes that end it. -/
def trimSlashes (path : String) : String :=
  let kept := path.toList.reverse.dropWhile (· == '/')
  if kept.isEmpty ∧ path ≠ "" then "/" else String.ofList kept.reverse

/-- The last name in a path. -/
def lastName (path : String) : String :=
  let path := trimSlashes path
  if path = "/" then "/" else (path.splitOn "/").getLastD ""

/-- A name without a suffix, if more than the suffix is there. -/
def withoutSuffix (name suffix : String) : String :=
  if suffix ≠ "" ∧ name ≠ suffix ∧ name.endsWith suffix then
    (name.take (name.length - suffix.length)).toString
  else name

/-- What stands before the last name in a path. -/
def directoryName (path : String) : String :=
  let path := trimSlashes path
  if path = "/" then "/"
  else
    match (path.splitOn "/").dropLast with
    | [] => "."
    | names =>
      let front := String.intercalate "/" names
      if front = "" then "/" else trimSlashes front

/-- The program `basename`. -/
def basename : Utility := fun call =>
  let accepted : Accepted :=
    { letters := "as:z", leading := true
      names := [("multiple", 'a'), ("suffix", 's'), ("zero", 'z')] }
  accepted.read call 1 fun arguments =>
    let ending := if arguments.has 'z' then "\x00" else "\n"
    let suffix := (arguments.value? 's').getD ""
    let show' (names : List String) (suffix : String) : Job :=
      Job.answer call (String.join (names.map fun name =>
        withoutSuffix (lastName name) suffix ++ ending))
    match arguments.operands with
    | [] => Job.misuse call "missing operand"
    | names =>
      if arguments.has 'a' ∨ arguments.has 's' then show' names suffix
      else
        match names with
        | [name] => show' [name] ""
        | [name, suffix] => show' [name] suffix
        | _ :: _ :: extra :: _ => Job.misuse call ("extra operand " ++ call.quote extra)
        | [] => .exit 0

/-- The program `dirname`. -/
def dirname : Utility := fun call =>
  ({ letters := "z", names := [("zero", 'z')] } : Accepted).read call 1 fun arguments =>
    let ending := if arguments.has 'z' then "\x00" else "\n"
    if arguments.operands.isEmpty then Job.misuse call "missing operand"
    else Job.answer call (String.join (arguments.operands.map fun path =>
      directoryName path ++ ending))

/-! ### The surroundings -/

/-- The program `printenv`. -/
def printenv : Utility := fun call =>
  ({ letters := "0", names := [("null", '0')], leading := true } : Accepted).read call 2
    fun arguments =>
      let ending := if arguments.has '0' then "\x00" else "\n"
      if arguments.operands.isEmpty then
        Job.answer call (String.join (call.environment.map fun entry =>
          entry.1 ++ "=" ++ entry.2 ++ ending))
      else
        let values := arguments.operands.map call.value?
        Job.answer call
          (String.join (values.filterMap fun value => value.map (· ++ ending)))
          (if values.all Option.isSome then 0 else 1)

/-- The program `pwd`. -/
def pwd : Utility := fun call =>
  .disk fun disk stand => (disk, Job.answer call (disk.pathOf stand.directory ++ "\n"))

/-- What is known of the machine, by the letters of the options that ask for it. -/
def machine : List (Char × String) :=
  [('s', "Linux"), ('n', "localhost"), ('r', "6.1.0"), ('v', "#1 SMP PREEMPT_DYNAMIC"), ('m', "x86_64"),
    ('p', "unknown"), ('i', "unknown"), ('o', "GNU/Linux")]

/-- The program `uname`. -/
def uname : Utility := fun call =>
  let accepted : Accepted :=
    { letters := "asnrvmpio"
      names := [("all", 'a'), ("kernel-name", 's'), ("sysname", 's'), ("nodename", 'n'),
        ("kernel-release", 'r'), ("release", 'r'), ("kernel-version", 'v'), ("machine", 'm'),
        ("processor", 'p'), ("hardware-platform", 'i'), ("operating-system", 'o')] }
  accepted.read call 1 fun arguments =>
    match arguments.operands with
    | operand :: _ => Job.misuse call ("extra operand " ++ call.quote operand)
    | [] =>
      let asked := machine.filter fun entry =>
        arguments.has entry.1 || (arguments.options.isEmpty && entry.1 == 's') ||
          (arguments.has 'a' && entry.2 != "unknown")
      Job.answer call (String.intercalate " " (asked.map (·.2)) ++ "\n")

/-- The program `arch`. -/
def arch : Utility := fun call =>
  ({ letters := "" } : Accepted).read call 1 fun arguments =>
    match arguments.operands with
    | operand :: _ => Job.misuse call ("extra operand " ++ call.quote operand)
    | [] => Job.answer call "x86_64\n"

/-- The program `tty`. -/
def tty : Utility := fun call =>
  let accepted : Accepted := { letters := "s", names := [("silent", 's'), ("quiet", 's')] }
  accepted.read call 2 fun arguments =>
    match arguments.operands with
    | operand :: _ => Job.misuse call ("extra operand " ++ call.quote operand) 2
    | [] => if arguments.has 's' then .exit 1 else Job.answer call "not a tty\n" 1 3

/-- The program `which`. -/
def which : Utility := fun call =>
  ({ letters := "as", leading := true } : Accepted).read call 2 fun arguments =>
    .disk fun disk stand =>
      let here := stand.directory
      let directories := ((call.value? "PATH").getD "").splitOn ":"
      let places (name : String) : List String :=
        if name.contains '/' then [name].filter (Names.isRunnable disk here)
        else
          ((directories.map fun directory => directory ++ "/" ++ name).eraseDups).filter
            (Names.isRunnable disk here)
      let found := arguments.operands.map fun name =>
        if arguments.has 'a' then places name else (places name).take 1
      let text := if arguments.has 's' then "" else unlines found.flatten
      (disk, Job.answer call text 
        (if found.isEmpty || found.any List.isEmpty then 1 else 0))

end Utility

end ArtifactLens.Shell
