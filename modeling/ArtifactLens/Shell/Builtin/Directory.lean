import ArtifactLens.Shell.Builtin.Basic
import ArtifactLens.Shell.Conversion

/-!
# The working directory

The commands `cd`, `pwd` and `umask`. A shell keeps the path that led to its directory: going up
drops the last name of that path, through whichever links it led.
-/

namespace ArtifactLens.Shell

namespace Directory

variable {τ : Type}

/-- The slashes that a path keeps at its start: two, if it starts with just two. -/
def rootOf (path : String) : String :=
  if path.startsWith "//" ∧ ¬ path.startsWith "///" then "//" else "/"

/-- The path that names lead to from a path, `..` dropping a name. -/
def extend (path target : String) : String :=
  let isWhole := target.startsWith "/"
  let start := if isWhole then [] else (path.splitOn "/").filter (· != "")
  let names := (target.splitOn "/").filter (· != "")
  rootOf (if isWhole then target else path) ++ String.intercalate "/" (names.foldl (fun done name =>
    if name = "." then done else if name = ".." then done.dropLast else done ++ [name]) start)

/-- The places that a relative target may mean, with whether the place is announced. -/
def candidates (search target : String) : List (String × Bool) :=
  (search.splitOn ":").map fun directory =>
    if directory = "" then (target, false)
    else if directory.endsWith "/" then (directory ++ target, true)
    else (directory ++ "/" ++ target, true)

/-- The target is not looked for in other directories. -/
def isFixed (target : String) : Bool :=
  target.startsWith "/" || target = "." || target = ".." || target.startsWith "./" ||
    target.startsWith "../"

/-- The command `cd`. -/
def change (shell : Shell) (args : List String) : Sys τ Reply := do
  match Argument.options "LP" args with
  | .error fault => return .refuse shell (Argument.optionComplaint fault)
  | .ok (options, args) =>
    let physical := options.getLast?.any (·.1 == 'P')
    let memory := shell.memory
    let (target, announced) := match args.head? with
      | none => ((memory.get? "HOME").getD "", false)
      | some "-" => ((memory.get? "OLDPWD").getD "", true)
      | some target => (target, false)
    let kernel ← get
    let isThere (path : String) : Bool :=
      match kernel.disk.inspect kernel.self.directory path with
      | .ok (_, file) => file.isDirectory
      | _ => false
    let (path, announced) :=
      if isFixed target then (target, announced)
      else
        let relative := if target = "" then "." else target
        match (candidates ((memory.get? "CDPATH").getD "") relative).find? (isThere ·.1) with
        | some (path, tells) => (path, announced || tells)
        | none => (target, announced)
    let wanted := if physical then path else extend shell.directory path
    match kernel.disk.inspect kernel.self.directory wanted with
    | .ok (number, { body := .directory .., .. }) =>
      set { kernel with self.directory := number }
      let directory := if physical then kernel.disk.pathOf number else wanted
      let memory := (memory.force "OLDPWD" shell.directory).force "PWD" directory
      let mark (v : Variable) : Variable := { v with isExported := true }
      let memory := (memory.mark "OLDPWD" mark).mark "PWD" mark
      return {
        shell := { shell with memory, directory }
        output := if announced then directory ++ "\n" else "" }
    | _ => return .refuse shell ("can't cd to " ++ target)

/-- The command `pwd`. -/
def print (shell : Shell) (args : List String) : Sys τ Reply := do
  match Argument.options "LP" args with
  | .error fault => return .refuse shell (Argument.optionComplaint fault)
  | .ok (options, _) =>
    let kernel ← get
    let physical := options.getLast?.any (·.1 == 'P')
    let directory := if physical then kernel.disk.pathOf kernel.self.directory else shell.directory
    return { shell, output := directory ++ "\n" }

/-- Permissions of the three classes in letters. -/
def symbolic (mode : Nat) : String :=
  let letters (bits : Nat) : String :=
    (if bits &&& 4 != 0 then "r" else "") ++ (if bits &&& 2 != 0 then "w" else "") ++
      (if bits &&& 1 != 0 then "x" else "")
  "u=" ++ letters (mode >>> 6 &&& 7) ++ ",g=" ++ letters (mode >>> 3 &&& 7) ++ ",o=" ++
    letters (mode &&& 7)

/-- The classes that the letters in front of a clause name, as the lowest bit of each. -/
def classes (text : List Char) : Nat :=
  text.foldl (fun bits c => bits ||| match c with
    | 'a' => 0o111
    | 'u' => 0o100
    | 'g' => 0o010
    | _ => 0o001) 0

/-- The permissions of one class that letters tell; `u`, `g` and `o` stand for those that the class
has in `whole`. -/
def permissionsOf (whole : Nat) (letters : List Char) : Nat :=
  (letters.foldl (fun bits c => bits ||| match c with
    | 'r' => 4
    | 'w' => 2
    | 'x' => 1
    | 'u' => whole >>> 6
    | 'g' => whole >>> 3
    | 'o' => whole
    | 'X' => if whole &&& 0o111 != 0 then 1 else 0
    | _ => 0) 0) &&& 7

/-- Changes permissions as clauses of letters say, such as `u=rw` or `go-w`. Letters always refer to
the permissions at the start; `chosen` are the classes named so far in the clause. -/
def applyClauses (whole chosen mode : Nat) : (measure : Nat) → List Char → Option Nat
  | 0, _ => none
  | _ + 1, [] => some mode
  | measure + 1, text =>
    let who := text.takeWhile ("augo".contains ·)
    let chosen := chosen ||| classes who
    let chosen := if chosen = 0 then 0o111 else chosen
    match text.drop who.length with
    | [] => none
    | operator :: rest =>
      let letters := rest.takeWhile ("rwxugoXs".contains ·)
      let rest := rest.drop letters.length
      let value := permissionsOf whole letters * chosen
      let mode? := match operator with
        | '-' => some (mode &&& (0o777 ^^^ value))
        | '=' => some (value ||| (mode &&& (0o777 ^^^ (chosen * 7))))
        | '+' => some (mode ||| value)
        | _ => none
      match mode?, rest with
      | none, _ => none
      | some mode, ',' :: rest => applyClauses whole 0 mode measure rest
      | some mode, [] => some mode
      | some mode, next :: _ =>
        if "=+-".contains next then applyClauses whole chosen mode measure rest else none

/-- The permissions that a text says, starting from others. -/
def parseMode? (mode : Nat) (text : String) : Option Nat :=
  if text.toList.head?.any Char.isDigit then
    if text.toList.all (fun c => '0' ≤ c && c ≤ '7') then
      some (Arithmetic.digitsValue 8 text.toList % 0o1000)
    else none
  else applyClauses mode 0 mode (text.length + 1) text.toList

/-- The command `umask`. -/
def permissions (shell : Shell) (args : List String) : Sys τ Reply := do
  match Argument.options "S" args with
  | .error fault => return .refuse shell (Argument.optionComplaint fault)
  | .ok (options, args) =>
    let kernel ← get
    let mask := kernel.self.mask
    match args with
    | [] =>
      let text := if options.isEmpty then
          Digit.padLeft 4 '0' ({ letter := 'o' : Conversion }.digits 8 mask)
        else symbolic (0o777 ^^^ mask)
      return { shell, output := text ++ "\n" }
    | text :: _ =>
      match parseMode? (0o777 ^^^ mask) text with
      | none => return .refuse shell (
          if text.toList.head?.any Char.isDigit then Argument.badNumber text
          else "Illegal mode: " ++ text)
      | some mode =>
        let mask := if text.toList.head?.any Char.isDigit then mode &&& 0o777 else 0o777 ^^^ mode
        set { kernel with self.mask := mask }
        return { shell }

end Directory

end ArtifactLens.Shell
