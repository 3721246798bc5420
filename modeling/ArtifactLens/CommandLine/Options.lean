import ArtifactLens.Settings

/-!
# Options

How the arguments of the command line are read. The first argument names a command; options
follow, each with one value, either attached by `=` or as the next argument. The name of an option
may be cut short as long as one option of the command starts with it. Of an option given twice the
last counts. An argument that starts with a dash is no value, unless it is a negative number or
holds a space; an attached value of two dashes is taken for none at all.

Extra compiler arguments start with dashes as a rule, so `attach` first joins `--extra-args` to the
argument after it.
-/

namespace ArtifactLens

namespace Options

/-- The option for extra compiler arguments. -/
def extraArgsName : String := "--extra-args"

/-- Joins every `--extra-args` to the argument after it. -/
@[grind =]
def attach : List String → List String
  | [] => []
  | [token] => [token]
  | token :: value :: rest =>
    if token = extraArgsName then (extraArgsName ++ "=" ++ value) :: attach rest
    else token :: attach (value :: rest)

/-- The commands. -/
inductive Command where
  | list
  | show
  | watch
  deriving DecidableEq, Repr

/-- The command with a name. -/
def Command.ofName? : String → Option Command
  | "list" => some .list
  | "show" => some .show
  | "watch" => some .watch
  | _ => none

/-- What an option sets. -/
inductive Key where
  | help
  | root
  | outDir
  | databaseDir
  | timeout
  | source
  | kind
  | extraArgs
  deriving DecidableEq, Repr

/-- The name of an option. -/
def Key.name : Key → String
  | .help => "--help"
  | .root => "--root"
  | .outDir => "--out-dir"
  | .databaseDir => "--compile-commands-dir"
  | .timeout => "--timeout"
  | .source => "--source"
  | .kind => "--kind"
  | .extraArgs => extraArgsName

/-- The options of a command. -/
def keys : Command → List Key
  | .list => [.help, .root, .outDir, .databaseDir, .timeout]
  | .show | .watch => [.help, .root, .outDir, .databaseDir, .timeout, .source, .kind, .extraArgs]

/-- The value of an option: a text, or none where two dashes stand for it. -/
inductive Value where
  | text (text : String)
  | nothing
  deriving DecidableEq, Repr

/-- The value that a text gives an option. -/
def Value.ofText (text : String) : Value := if text = "--" then .nothing else .text text

/-- What an argument is. -/
inductive Token where
  /-- An option, with the value attached to it. -/
  | option (key : Key) (attached : Option String)
  /-- An argument that can be a value. -/
  | plain (text : String)
  /-- Neither; no command line with such an argument is accepted. -/
  | refused
  deriving DecidableEq, Repr

/-- The text is a negative number, possibly before a line end. -/
def isNegativeNumber (text : List Char) : Bool :=
  match text with
  | '-' :: rest =>
    let body := if rest.getLast? = some '\n' then rest.dropLast else rest
    let (whole, after) := Digit.span body
    match after with
    | [] => !whole.isEmpty
    | '.' :: fraction => !fraction.isEmpty && fraction.all Digit.isDigit
    | _ => false
  | _ => false

/-- Splits a text at its first equals sign. -/
def splitAttached (text : List Char) : List Char × Option (List Char) :=
  let name := text.takeWhile (· != '=')
  (name, if name.length < text.length then some (text.drop (name.length + 1)) else none)

/-- What an argument is among those of a command. -/
def classify (command : Command) (text : String) : Token :=
  let chars := text.toList
  if chars.head? ≠ some '-' then .plain text
  else if text = "-" then .plain text
  else
    match (keys command).find? fun key => key.name == text with
    | some key => .option key none
    | none =>
      if text = "--" ∨ "-h".toList.isPrefixOf chars then .refused
      else
        let (name, attached) := splitAttached chars
        let attached := attached.map String.ofList
        match (keys command).find? fun key => key.name == String.ofList name with
        | some key => .option key attached
        | none =>
          let candidates := if "--".toList.isPrefixOf chars then
            (keys command).filter fun key => name.isPrefixOf key.name.toList
          else []
          match candidates with
          | [key] => .option key attached
          | [] =>
            if isNegativeNumber chars || chars.contains ' ' then .plain text else .refused
          | _ => .refused

/-- The options of a command line in order, each with its value, if each has exactly one. -/
def pairs? : List Token → Option (List (Key × Value))
  | [] => some []
  | .option key (some value) :: rest => (pairs? rest).map ((key, .ofText value) :: ·)
  | .option key none :: .plain value :: rest => (pairs? rest).map ((key, .ofText value) :: ·)
  | _ => none

/-- The value is fit for the option. -/
def isFit : Key × Value → Bool
  | (.help, _) => false
  | (.timeout, .text text) => (Binary64.parse? text).isSome
  | (.kind, .text text) => (Kind.ofName? text).isSome
  | _ => true

end Options

/-- A command with its options. -/
structure Options where
  command : Options.Command
  root : Options.Value
  outDir : Options.Value
  databaseDir : Options.Value
  /-- Seconds after which a build is given up; zero stands for never. -/
  timeout : Option Binary64
  source : Options.Value
  kind : Options.Value
  extraArgs : Options.Value
  deriving DecidableEq, Repr

namespace Options

/-- The last value that an option is given. -/
def last? (given : List (Key × Value)) (key : Key) : Option Value :=
  (given.reverse.find? fun pair => pair.1 == key).map (·.2)

/-- The time limit that an option sets. -/
def timeLimit : Option Value → Option Binary64
  | none => some Settings.defaultTimeout
  | some .nothing => none
  | some (.text text) =>
    match Binary64.parse? text with
    | some limit => if limit.isZero then none else some limit
    | none => none

/-- The command and the options that arguments spell, if they are acceptable. -/
def parse? (argv : List String) : Option Options :=
  match attach argv with
  | [] => none
  | name :: arguments =>
    match Command.ofName? name with
    | none => none
    | some command =>
      match pairs? (arguments.map (classify command)) with
      | none => none
      | some given =>
        let isComplete := command = .list ∨ (last? given .source).isSome
        if given.all isFit ∧ isComplete then
          some {
            command
            root := (last? given .root).getD (.text ".")
            outDir := (last? given .outDir).getD (.text Settings.defaultOutputDir)
            databaseDir := (last? given .databaseDir).getD (.text Settings.defaultDatabaseDir)
            timeout := timeLimit (last? given .timeout)
            source := (last? given .source).getD .nothing
            kind := (last? given .kind).getD (.text Kind.disassembly.name)
            extraArgs := (last? given .extraArgs).getD (.text "") }
        else none

end Options

end ArtifactLens
