import ArtifactLens.Shell.Builtin.Basic

/-!
# What names mean

A name in front of a command is that of a function, of a command that the shell has of its own, or
of a program that is looked for in the directories of the variable `PATH`. The commands `type`,
`command -v` and `hash` tell which.
-/

namespace ArtifactLens.Shell

namespace Names

/-- The commands of the shell whose failure does not end it. -/
def ordinary : List String :=
  ["alias", "bg", "cd", "chdir", "command", "echo", "false", "fg", "getopts", "hash", "jobs", "kill",
    "printf", "pwd", "read", "test", "[", "true", "type", "ulimit", "umask", "unalias", "wait"]

/-- The failure of the command ends the shell. -/
def isSpecial (name : String) : Bool := Parse.specialNames.contains name

/-- The shell has a command of the name. -/
def isBuiltin (name : String) : Bool := isSpecial name || ordinary.contains name

/-- A path that can be run from a directory. -/
def isRunnable (disk : Disk) (here : FileNumber) (path : String) : Bool :=
  match disk.inspect here path with
  | .ok (_, file) => file.isExecutable
  | .error _ => false

/-- The paths of a name in the directories of a list. -/
def paths (directories name : String) : List String :=
  (directories.splitOn ":").map fun directory =>
    if directory = "" then name
    else if directory.endsWith "/" then directory ++ name
    else directory ++ "/" ++ name

/-- The path of the program that a name stands for, searched in the directories of a list. -/
def search? (disk : Disk) (here : FileNumber) (directories name : String) : Option String :=
  if name.contains '/' then some name
  else if name = "" then none
  else (paths directories name).find? (isRunnable disk here)

/-- Why the search for a program fails: something that cannot be run may bear the name. -/
def searchFault (disk : Disk) (here : FileNumber) (directories name : String) : SystemFault :=
  if (paths directories name).any fun path => (disk.inspect here path).isOk then .denied
  else .missing

/-- How a program that cannot be run is told of. -/
def faultText : SystemFault → String
  | .missing | .notDirectory => "not found"
  | fault => fault.message

/-- The directories that are searched. -/
def directories (memory : Memory) : String := (memory.get? "PATH").getD ""

/-- Tells what a name means: in a sentence, or as a word that can be run. -/
def describe (disk : Disk) (here : FileNumber) (shell : Shell) (verbose : Bool) (name : String) :
    String × Nat :=
  let tell (sentence word : String) : String × Nat :=
    ((if verbose then name ++ sentence else word) ++ "\n", 0)
  if Token.reserved.any (·.1 == name) then tell " is a shell keyword" name
  else
    match shell.aliases.get? name with
    | some value =>
      tell (" is an alias for " ++ value) ("alias " ++ name ++ "=" ++ Argument.quote value)
    | none =>
      if !name.contains '/' ∧ (shell.functions.get? name).isSome then
        tell " is a shell function" name
      else if isSpecial name then tell " is a special shell builtin" name
      else if isBuiltin name then tell " is a shell builtin" name
      else
        let found := search? disk here (directories shell.memory) name
        match found.filter fun path => (disk.inspect here path).isOk with
        | some path =>
          if shell.tracked.contains name then tell (" is a tracked alias for " ++ path) path
          else tell (" is " ++ path) path
        | none => (if verbose then name ++ ": not found\n" else "", 127)

/-- The command `type`. -/
def type (disk : Disk) (here : FileNumber) (shell : Shell) (names : List String) : Reply :=
  names.foldl (fun reply name =>
    let (text, status) := describe disk here shell true name
    { reply with output := reply.output ++ text, status := max reply.status status }) { shell }

/-- The command `hash`. -/
def hash (disk : Disk) (here : FileNumber) (shell : Shell) (args : List String) : Reply :=
  match Argument.options "r" args with
  | .error fault => .refuse shell (Argument.optionComplaint fault)
  | .ok (_ :: _, _) => { shell := { shell with tracked := [] } }
  | .ok ([], []) =>
    { shell
      output := String.join (shell.tracked.filterMap fun name =>
        (search? disk here (directories shell.memory) name).map (· ++ "\n")) }
  | .ok ([], names) =>
    names.foldl (fun reply name =>
      match search? disk here (directories shell.memory) name with
      | some _ =>
        if isBuiltin name then reply
        else { reply with shell := { reply.shell with tracked := name :: reply.shell.tracked } }
      | none =>
        if isBuiltin name ∨ (shell.functions.get? name).isSome then reply
        else { reply with
          status := 1, complaints := reply.complaints ++ shell.message (name ++ ": not found") })
      { shell }

end Names

end ArtifactLens.Shell
