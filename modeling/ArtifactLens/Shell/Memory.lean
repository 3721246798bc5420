import ArtifactLens.Shell.Arithmetic
import ArtifactLens.Shell.Job

/-!
# What a shell remembers

Variables, parameters and options: all that the words of a command may depend on. Assigning to a
protected variable fails.
-/

namespace ArtifactLens.Shell

/-- A variable; it may lack a value and still be marked. -/
structure Variable where
  value : Option String
  isExported : Bool := false
  isReadOnly : Bool := false

/-- How far the reading of options has come: the number of arguments passed, and the characters
passed of the last of them, if it was not left yet. -/
structure OptionPlace where
  index : Nat := 0
  offset : Option Nat := none

/-- What a shell remembers from command to command. -/
structure Memory where
  bindings : Table String Variable
  positional : List String
  /-- The name of the shell or its script. -/
  name : String
  /-- The number of the shell's process; those that it forks keep it. -/
  process : Nat
  parent : Nat
  /-- The process that was last started in the background. -/
  background : Option Nat
  /-- The status of the last command. -/
  status : Nat
  /-- The letters of the options that are set. -/
  options : List Char
  /-- The line of the command that is run. -/
  line : Nat
  /-- Where the reading of options goes on. -/
  optionPlace : OptionPlace := {}

/-- Why a shell gives up on a command. -/
inductive ShellFault where
  | complaint (text : String)
  /-- The shell itself is ended by a signal. -/
  | crash (signal : Nat)

namespace Memory

/-- The options by name; the last ones have no letter, for which upper-case letters stand in. -/
def optionNames : List (String × Char) :=
  [("errexit", 'e'), ("noglob", 'f'), ("ignoreeof", 'I'), ("interactive", 'i'), ("monitor", 'm'),
    ("noexec", 'n'), ("stdin", 's'), ("xtrace", 'x'), ("verbose", 'v'), ("vi", 'V'),
    ("emacs", 'E'), ("noclobber", 'C'), ("allexport", 'a'), ("notify", 'b'), ("nounset", 'u'),
    ("privileged", 'p'), ("nolog", 'L'), ("debug", 'D')]

/-- An option is set. -/
def has (memory : Memory) (letter : Char) : Bool := memory.options.contains letter

/-- The letters of the options that are set, as the parameter `-` has them. -/
def optionLetters (memory : Memory) : String :=
  String.ofList <| (optionNames.map (·.2)).reverse.filter fun letter =>
    memory.has letter && letter != 'L' && letter != 'D'

/-- The value of a variable. -/
def get? (memory : Memory) (name : String) : Option String :=
  match memory.bindings.get? name with
  | some known => known.value
  | none => none

/-- The value of a variable or of a numbered or special parameter that is one text. -/
def parameter? (memory : Memory) (name : String) : Option String :=
  match name with
  | "$" => some (toString memory.process)
  | "?" => some (toString memory.status)
  | "#" => some (toString memory.positional.length)
  | "!" => memory.background.map toString
  | "-" => some memory.optionLetters
  | _ =>
    match name.toNat? with
    | some 0 => some memory.name
    | some (n + 1) => memory.positional[n]?
    | none => memory.get? name

/-- Changes the marks of a variable, which need not have a value. -/
def mark (memory : Memory) (name : String) (f : Variable → Variable) : Memory :=
  { memory with bindings :=
      memory.bindings.insert name (f ((memory.bindings.get? name).getD { value := none })) }

/-- The memory with the reading of options put where a value for `OPTIND` says: at an argument, by
its number. -/
def placeOptions (memory : Memory) (value : String) : Except ShellFault Memory :=
  match Argument.number? value with
  | some number => .ok { memory with optionPlace := { index := number - 1 } }
  | none => .error (.complaint (Argument.badNumber value))

/-- Gives a variable a value. A value for `OPTIND` starts the reading of options anew. -/
def set (memory : Memory) (name value : String) : Except ShellFault Memory :=
  if !isVariableName name then .error (.complaint (name ++ ": bad variable name"))
  else
    match memory.bindings.get? name with
    | some { isReadOnly := true, .. } => .error (.complaint (name ++ ": is read only"))
    | known => do
      let memory ← if name = "OPTIND" then memory.placeOptions value else .ok memory
      return memory.mark name fun v => { v with
        value := some value
        isExported := (known.any (·.isExported)) || memory.has 'a' }

/-- Gives a variable a value without regard to its protection. -/
def force (memory : Memory) (name value : String) : Memory :=
  memory.mark name fun v => { v with value := some value }

/-- Takes a variable away. -/
def unset (memory : Memory) (name : String) : Except ShellFault Memory :=
  match memory.bindings.get? name with
  | some known =>
    if known.isReadOnly then .error (.complaint (name ++ ": is read only"))
    else if name = "OPTIND" then .error (.complaint (Argument.badNumber ""))
    else .ok { memory with bindings := memory.bindings.erase name }
  | none => .ok memory

/-- The name under which a function keeps the options of the shell. -/
def optionsName : String := "-"

/-- The present state of a variable, or of the options of the shell. -/
def keep (memory : Memory) (name : String) : Option Variable :=
  if name = optionsName then some { value := some (String.ofList memory.options) }
  else memory.bindings.get? name

/-- Puts a variable, or the options of the shell, back as it was. -/
def putBack (memory : Memory) (name : String) (old : Option Variable) : Memory :=
  if name = optionsName then
    { memory with options := ((old.bind (·.value)).getD "").toList }
  else
    { memory with bindings :=
        match old with
        | some known => memory.bindings.insert name known
        | none => memory.bindings.erase name }

/-- The number of shelves on which variables lie. -/
def shelves : Nat := 39

/-- The shelf of a name: the sum of its octets, the first one counting for sixteen more. -/
def shelf (name : String) : Nat :=
  let octets := name.toUTF8.toList.map UInt8.toNat
  (16 * octets.headD 0 + octets.foldl (· + ·) 0) % shelves

/-- What programs are handed, shelf by shelf. -/
def environment (memory : Memory) : Environment :=
  let exported := memory.bindings.entries.filterMap fun entry =>
    if entry.2.isExported then entry.2.value.map fun value => (entry.1, value) else none
  exported.mergeSort fun a b => shelf a.1 ≤ shelf b.1

/-- The separators of fields, if they are set. -/
def separators? (memory : Memory) : Option String := memory.get? "IFS"

/-- The variables as arithmetic sees them: one without a value counts as empty. -/
def arithmetic : Arithmetic.Environment Memory where
  get memory name := .ok ((memory.parameter? name).getD "")
  set memory name value :=
    match memory.set name value with
    | .ok memory => .ok memory
    | .error _ => .error (.readOnly name)

/-- What a fault of an expression means to the shell. -/
def arithmeticFault (text : String) : Arithmetic.Fault → ShellFault
  | .expression complaint =>
    .complaint ("arithmetic expression: " ++ complaint ++ ": \"" ++ text ++ "\"")
  | .numeral value => .complaint ("Illegal number: " ++ value)
  | .unset name => .complaint (name ++ ": parameter not set")
  | .readOnly name => .complaint (name ++ ": is read only")
  | .overflow => .crash 8

/-- The value of an arithmetic expression. -/
def evaluate (memory : Memory) (text : String) : Except ShellFault (Int × Memory) :=
  match Arithmetic.evaluate arithmetic memory text with
  | .ok result => .ok result
  | .error fault => .error (arithmeticFault text fault)

/-- What a shell starts with: the variables of its environment and some of its own. -/
def initial (environment : Environment) (directory : String) (name : String)
    (positional : List String) (process parent : Nat) : Memory :=
  let own : List (String × Variable) :=
    [("IFS", { value := some " \t\n" }), ("OPTIND", { value := some "1" }),
      ("PATH", { value := some "/usr/local/sbin:/usr/local/bin:/usr/sbin:/usr/bin:/sbin:/bin" }),
      ("PPID", { value := some (toString parent) }), ("PS1", { value := some "# " }),
      ("PS2", { value := some "> " }), ("PS4", { value := some "+ " })]
  let kept := environment.filter fun entry =>
    isVariableName entry.1 && !(["IFS", "OPTIND", "PPID", "PWD"].contains entry.1)
  let table : Table String Variable := ⟨own⟩
  let table := kept.foldl (fun t entry =>
    t.insert entry.1 { value := some entry.2, isExported := true }) table
  { bindings := table.insert "PWD" { value := some directory, isExported := true }
    positional, name, process, parent, background := none, status := 0, options := [], line := 1 }

end Memory

end ArtifactLens.Shell
