import ArtifactLens.Shell.Builtin.Basic

/-!
# Variables, parameters and options

The commands that list and change what the shell remembers: `export`, `readonly`, `local`, `unset`,
`set`, `shift`, `getopts`, `alias` and `unalias`.
-/

namespace ArtifactLens.Shell

namespace Builtin

/-- Lists variables in a form that the shell reads, each line after a word. -/
def listVariables (memory : Memory) (start : String) (shown : Variable → Bool) : String :=
  let entries := (memory.bindings.entries.filter fun entry => shown entry.2).mergeSort
    fun a b => a.1 ≤ b.1
  String.join <| entries.map fun (name, known) =>
    start ++ name ++ (match known.value with
      | some value => "=" ++ Argument.quote value
      | none => "") ++ "\n"

/-- Marks variables, giving values to those that come with one. -/
def markAll (memory : Memory) (f : Variable → Variable) :
    List String → Except ShellFault Memory
  | [] => .ok memory
  | arg :: rest =>
    match splitAssignment? arg with
    | some (name, value) => do
      let memory ← memory.set name value
      markAll (memory.mark name f) f rest
    | none =>
      let name := (arg.takeWhile (· != '=')).toString
      if isVariableName arg then markAll (memory.mark arg f) f rest
      else .error (.complaint (name ++ ": bad variable name"))

/-- The commands `export` and `readonly`, which give variables a mark or list those that have it. -/
def marking (name : String) (has : Variable → Bool) (give : Variable → Variable) (shell : Shell)
    (args : List String) : Reply :=
  match Argument.options "p" args with
  | .error fault => .refuse shell (Argument.optionComplaint fault)
  | .ok (options, names) =>
    if !options.isEmpty ∨ names.isEmpty then
      { shell, output := listVariables shell.memory (name ++ " ") has }
    else .ofMemory shell (markAll shell.memory give names)

/-- The command `unset`. -/
def unsetNames (shell : Shell) (args : List String) : Reply :=
  match Argument.options "vf" args with
  | .error fault => .refuse shell (Argument.optionComplaint fault)
  | .ok (options, names) =>
    if options.getLast?.any (·.1 == 'f') then
      { shell := { shell with functions := names.foldl Table.erase shell.functions } }
    else
      let unsetOne (memory : Memory) (name : String) : Except ShellFault Memory :=
        if isVariableName name then memory.unset name
        else .error (.complaint (name ++ ": bad variable name"))
      .ofMemory shell (names.foldlM unsetOne shell.memory)

/-- Keeps the present state of a variable for the end of the function that runs. -/
def keepLocal (frames : List Frame) (name : String) (old : Option Variable) : List Frame :=
  match frames with
  | [] => []
  | .call positional place loops kept :: rest =>
    let kept := if kept.any (·.1 == name) then kept else (name, old) :: kept
    .call positional place loops kept :: rest
  | frame :: rest => frame :: keepLocal rest name old

/-- The command `local`. -/
def declareLocal (shell : Shell) (args : List String) : Reply :=
  if shell.calls = 0 then .refuse shell "not in a function"
  else
    let names := args.map fun arg => (arg.takeWhile (· != '=')).toString
    let frames := names.foldl (fun frames name =>
      keepLocal frames name (shell.memory.keep name)) shell.frames
    match args.foldlM (fun memory arg =>
        match splitAssignment? arg with
        | some (name, value) => memory.set name value
        -- A bad name is told when the function comes to its end.
        | none => .ok memory) shell.memory with
    | .ok memory => { shell := { shell with memory, frames } }
    | .error fault => { shell := { shell with frames }, status := 2, fault := some fault }

/-- The settings of all options. -/
def listOptions (memory : Memory) (asCommands : Bool) : String :=
  let line (entry : String × Char) : String :=
    let isOn := memory.has entry.2
    if asCommands then "set " ++ (if isOn then "-o " else "+o ") ++ entry.1 ++ "\n"
    else
      entry.1 ++ String.ofList (List.replicate (16 - entry.1.length) ' ') ++
        (if isOn then "on" else "off") ++ "\n"
  (if asCommands then "" else "Current option settings\n") ++
    String.join (Memory.optionNames.map line)

/-- Sets or clears an option. -/
def setOption (memory : Memory) (letter : Char) (on : Bool) : Memory :=
  let others := memory.options.filter (· != letter)
  { memory with options := if on then letter :: others else others }

/-- What the options of `set` change: the memory, the arguments after them if there are any to
become parameters, and what is listed. -/
structure Setting where
  memory : Memory
  parameters : Option (List String)
  listed : String := ""

/-- Reads the letters of one argument of `set`. -/
def setLetters (on : Bool) (setting : Setting) :
    List Char → List String → Except String (Setting × List String)
  | [], rest => .ok (setting, rest)
  | 'o' :: more, [] =>
    setLetters on { setting with listed := setting.listed ++ listOptions setting.memory (!on) } more []
  | 'o' :: more, name :: rest =>
    match Memory.optionNames.find? (·.1 == name) with
    | some (_, letter) =>
      setLetters on { setting with memory := setOption setting.memory letter on } more rest
    | none => .error ("Illegal option -o " ++ name)
  | letter :: more, rest =>
    if Memory.optionNames.any (fun entry => entry.2 == letter) && letter != 'L' && letter != 'D' then
      setLetters on { setting with memory := setOption setting.memory letter on } more rest
    else .error ("Illegal option -" ++ String.singleton letter)

/-- Reads the arguments of `set`. -/
def setArguments (setting : Setting) : (measure : Nat) → List String → Except String Setting
  | 0, _ => .ok setting
  | _ + 1, [] => .ok setting
  | measure + 1, arg :: rest =>
    match arg.toList with
    | ['-'] =>
      let memory := setOption (setOption setting.memory 'x' false) 'v' false
      .ok { setting with memory, parameters := if rest.isEmpty then none else some rest }
    | ['-', '-'] => .ok { setting with parameters := some rest }
    | '-' :: letters =>
      match setLetters true setting letters rest with
      | .ok (setting, rest) => setArguments setting measure rest
      | .error complaint => .error complaint
    | '+' :: letters =>
      match setLetters false setting letters rest with
      | .ok (setting, rest) => setArguments setting measure rest
      | .error complaint => .error complaint
    | _ => .ok { setting with parameters := some (arg :: rest) }

/-- The command `set`. -/
def setParameters (shell : Shell) (args : List String) : Reply :=
  if args.isEmpty then
    { shell, output := listVariables shell.memory "" fun known => known.value.isSome }
  else
    match setArguments ⟨shell.memory, none, ""⟩ (args.length + 1) args with
    | .error complaint => .refuse shell complaint
    | .ok setting =>
      let memory := match setting.parameters with
        | some positional => { setting.memory with positional, optionPlace := {} }
        | none => setting.memory
      { shell := shell.remember memory, output := setting.listed }

/-- The command `shift`. -/
def shift (shell : Shell) (args : List String) : Reply :=
  let count := match args with
    | [] => some 1
    | arg :: _ => Argument.number? arg
  match count with
  | none => .refuse shell (Argument.badNumber (args.headD ""))
  | some n =>
    if n > shell.memory.positional.length then .refuse shell "can't shift that many"
    else
      let memory := { shell.memory with
        positional := shell.memory.positional.drop n, optionPlace := {} }
      { shell := shell.remember memory }

/-- What reading one option finds: the letter, its value unless there is none, what is complained
about, the number of arguments that were passed, and the characters passed of the next. -/
structure OptionFound where
  letter : Char
  value : Option String
  complaint : String := ""
  index : Nat
  offset : Option Nat
  isOver : Bool := false

/-- Reads the next option of arguments, `index` of which have been passed; of the last of these
`offset` characters were read. -/
def nextOption (accepted : String) (args : List String) (index : Nat) (offset : Option Nat) :
    OptionFound :=
  let silent := accepted.startsWith ":"
  let current : List Char := match offset with
    | some n => ((args[index - 1]?).getD "").toList.drop n
    | none => []
  let opened : Option (List Char × Nat) :=
    if index > 0 ∧ !current.isEmpty then some (current, index)
    else
      match (args[index]?).map String.toList with
      | some ('-' :: c :: rest) =>
        if c = '-' ∧ rest.isEmpty then none else some (c :: rest, index + 1)
      | _ => none
  match opened with
  | none =>
    let passed := if args[index]? = some "--" ∧ current.isEmpty then index + 1 else index
    { letter := '?', value := none, index := passed, offset := none, isOver := true }
  | some ([], index) => { letter := '?', value := none, index, offset := none, isOver := true }
  | some (c :: rest, index) =>
    let after := accepted.toList.dropWhile (· != c)
    let read := (args[index - 1]?).getD ""
    let offset := some (read.length - rest.length)
    match if c = ':' then [] else after with
    | [] =>
      if silent then { letter := '?', value := some (String.singleton c), index, offset }
      else
        { letter := '?', value := none, index, offset
          complaint := "Illegal option -" ++ String.singleton c ++ "\n" }
    | _ :: ':' :: _ =>
      if !rest.isEmpty then
        { letter := c, value := some (String.ofList rest), index, offset := none }
      else
        match args[index]? with
        | some value => { letter := c, value := some value, index := index + 1, offset := none }
        | none =>
          if silent then
            { letter := ':', value := some (String.singleton c), index, offset }
          else
            { letter := '?', value := none, index, offset
              complaint := "No arg for -" ++ String.singleton c ++ " option\n" }
    | _ => { letter := c, value := some "", index, offset }

/-- The command `getopts`. -/
def getopts (shell : Shell) (args : List String) : Reply :=
  match args with
  | accepted :: name :: words =>
    let memory := shell.memory
    let words := if words.isEmpty then memory.positional else words
    let found := nextOption accepted words memory.optionPlace.index memory.optionPlace.offset
    let memory : Except ShellFault Memory := do
      let memory ← match found.value, found.isOver with
        | some value, _ => memory.set "OPTARG" value
        | none, false => memory.unset "OPTARG"
        | none, true => pure memory
      let memory ← memory.set "OPTIND" (toString (found.index + 1))
      let memory ← memory.set name (String.singleton found.letter)
      return { memory with optionPlace := ⟨found.index, found.offset⟩ }
    match memory with
    | .ok memory =>
      { shell := shell.remember memory, status := if found.isOver then 1 else 0
        complaints := found.complaint }
    | .error fault => { shell, status := 2, fault := some fault }
  | _ => .refuse shell "Usage: getopts optstring var [arg...]"

/-- Aliases are listed by a number that their names give. -/
def aliasOrder (name : String) : Nat :=
  match name.toList with
  | [] => 0
  | c :: rest => (rest.foldl (fun sum d => sum + d.toNat) (c.toNat * 16 + c.toNat)) % 39

/-- A line that defines an alias. -/
def aliasLine (name value : String) : String := name ++ "=" ++ Argument.quote value ++ "\n"

/-- Defines aliases and lists those that are asked for. -/
def aliasesFrom (reply : Reply) : List String → Reply
  | [] => reply
  | arg :: rest =>
    let name := (arg.takeWhile (· != '=')).toString
    let value := (arg.drop (name.length + 1)).toString
    if name.length < arg.length ∧ name ≠ "" then
      aliasesFrom { reply with
        shell := { reply.shell with aliases := reply.shell.aliases.insert name value } } rest
    else
      match reply.shell.aliases.get? arg with
      | some value => aliasesFrom { reply with output := reply.output ++ aliasLine arg value } rest
      | none =>
        aliasesFrom { reply with
          status := 1, complaints := reply.complaints ++ "alias: " ++ arg ++ " not found\n" } rest

/-- The command `alias`. -/
def defineAliases (shell : Shell) (args : List String) : Reply :=
  if args.isEmpty then
    let entries := shell.aliases.entries.mergeSort fun a b => aliasOrder a.1 ≤ aliasOrder b.1
    { shell, output := String.join (entries.map fun entry => aliasLine entry.1 entry.2) }
  else aliasesFrom { shell } args

/-- The command `unalias`. -/
def removeAliases (shell : Shell) (args : List String) : Reply :=
  match Argument.options "a" args with
  | .error fault => .refuse shell (Argument.optionComplaint fault)
  | .ok (_ :: _, _) => { shell := { shell with aliases := .empty } }
  | .ok ([], names) =>
    names.foldl (fun reply name =>
      match reply.shell.aliases.get? name with
      | some _ =>
        { reply with shell := { reply.shell with aliases := reply.shell.aliases.erase name } }
      | none => { reply with
          status := 1, complaints := reply.complaints ++ "unalias: " ++ name ++ " not found\n" })
      { shell }

end Builtin

end ArtifactLens.Shell
