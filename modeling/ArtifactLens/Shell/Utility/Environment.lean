import ArtifactLens.Shell.Utility.Launching

/-!
# Other surroundings

The program `env` runs a command with other names, in another directory or with other ways of taking
signals. Its arguments may stand in one text, which is taken apart by rules of its own
(`Splitting.run`).
-/

namespace ArtifactLens.Shell

namespace Utility

/-! ### Texts that hold several words -/

/-- Why a text cannot be taken apart. -/
inductive SplitFault where
  /-- The end of the text must not be marked between double quotes. -/
  | quotedStop
  | loneBackslash
  | unknownEscape (letter : Char)
  | badName (rest : List Char)
  | openQuote

/-- The wording of a fault. -/
def SplitFault.message : SplitFault → String
  | .quotedStop => "'\\c' must not appear in double-quoted -S string"
  | .loneBackslash => "invalid backslash at end of string in -S"
  | .unknownEscape letter => "invalid sequence '\\" ++ String.singleton letter ++ "' in -S"
  | .badName rest =>
    "only $\x7bVARNAME\x7d expansion is supported, error at: " ++ String.ofList rest
  | .openQuote => "no terminating quote in -S string"

/-- Words that are taken from a text. -/
structure Splitting where
  /-- The words so far, the newest first, each in reverse. -/
  words : List (List Char) := []
  /-- What comes next starts a word. -/
  isApart : Bool := true
  /-- The quote that is open. -/
  quote : Option Char := none
  /-- What there is to tell, the newest first. -/
  notes : List String := []

namespace Splitting

/-- Starts a word if none is open. -/
def start (splitting : Splitting) : Splitting :=
  if splitting.isApart then
    { splitting with isApart := false, words := [] :: splitting.words }
  else splitting

/-- Adds characters to the open word, which is started if need be. -/
def add (splitting : Splitting) (text : List Char) : Splitting :=
  let splitting := splitting.start
  match splitting.words with
  | word :: others => { splitting with words := (text.reverse ++ word) :: others }
  | [] => splitting

/-- Opens or closes a quote. -/
def turnQuote (splitting : Splitting) (mark : Char) : Splitting :=
  { splitting.start with quote := if splitting.quote = some mark then none else some mark }

/-- The name between braces at the start of a text. -/
def name? (text : List Char) : Option (List Char) :=
  match text with
  | '\x7b' :: first :: rest =>
    if first.isAlpha ∨ first = '_' then
      let more := rest.takeWhile fun c => c.isAlphanum || c == '_'
      if (rest.drop more.length).head? = some '\x7d' then some (first :: more) else none
    else none
  | _ => none

/-- Puts in the value that a name has. -/
def expand (call : Invocation) (splitting : Splitting) (name : String) : Splitting :=
  let spelled := "$\x7b" ++ name ++ "\x7d"
  match call.value? name with
  | some value =>
    let splitting := splitting.add value.toList
    { splitting with
      notes := ("expanding " ++ spelled ++ " into " ++ call.quote value) :: splitting.notes }
  | none =>
    { splitting with
      notes := ("replacing " ++ spelled ++ " with null string") :: splitting.notes }

/-- Takes a text apart, as far as that can be done. -/
def run (call : Invocation) (splitting : Splitting) (text : List Char) :
    Splitting × Option SplitFault :=
  match text with
  | [] => (splitting, if splitting.quote.isSome then some .openQuote else none)
  | '\\' :: rest =>
    match rest with
    | [] =>
      if splitting.quote = some '\'' then run call (splitting.add ['\\']) []
      else (splitting, some .loneBackslash)
    | letter :: after =>
      let put (c : Char) : Splitting × Option SplitFault := run call (splitting.add [c]) after
      if splitting.quote = some '\'' ∧ letter ≠ '\\' ∧ letter ≠ '\'' then
        run call (splitting.add ['\\']) (letter :: after)
      else
        match letter with
        | '"' | '#' | '$' | '\'' | '\\' => put letter
        | '_' =>
          if splitting.quote = some '"' then put ' '
          else run call { splitting with isApart := true } after
        | 'c' =>
          if splitting.quote = some '"' then (splitting, some .quotedStop) else (splitting, none)
        | 'f' => put '\x0c'
        | 'n' => put '\n'
        | 'r' => put '\r'
        | 't' => put '\t'
        | 'v' => put '\x0b'
        | other => (splitting, some (.unknownEscape other))
  | '$' :: rest =>
    if splitting.quote = some '\'' then run call (splitting.add ['$']) rest
    else
      match name? rest with
      | none => (splitting, some (.badName ('$' :: rest)))
      | some name => run call (splitting.expand call (String.ofList name)) (rest.drop (name.length + 2))
  | c :: rest =>
    if (c = '\'' ∧ splitting.quote ≠ some '"') ∨ (c = '"' ∧ splitting.quote ≠ some '\'') then
      run call (splitting.turnQuote c) rest
    else if Arithmetic.isSpace c ∧ splitting.quote.isNone then
      run call { splitting with isApart := true } rest
    else if c = '#' ∧ splitting.isApart then (splitting, none)
    else run call (splitting.add [c]) rest
  termination_by text.length

/-- The words, in order. -/
def result (splitting : Splitting) : List String :=
  splitting.words.reverse.map fun word => String.ofList word.reverse

end Splitting

/-! ### The surroundings of a command -/

/-- How a command is to take a signal. -/
structure Treatment where
  number : Nat
  /-- The signal has no effect. -/
  isIgnored : Bool
  /-- It is no matter if the signal cannot be taken so. -/
  isLenient : Bool

/-- What is asked of the surroundings of a command. -/
structure Surroundings where
  isBare : Bool := false
  unset : List String := []
  directory : Option String := none
  endsWithNul : Bool := false
  /-- Each step is told. -/
  tells : Bool := false
  treatments : List Treatment := []
  /-- Signals that have to wait from now on, or no longer have to. -/
  blocking : List (Nat × Bool) := []
  listsSignals : Bool := false

namespace Surroundings

/-- Tells of steps, if that is asked for. -/
def tell (surroundings : Surroundings) (notes : List String) (next : Job) : Job :=
  if surroundings.tells then
    notes.foldr (fun note next => Job.complain (note ++ "\n") next) next
  else next

/-- The signals that an option's value names, or the job of a complaint. -/
def signalsOf (call : Invocation) (value : String) : Except Job (List Nat) :=
  ((value.splitOn ",").filter (· != "")).mapM fun word =>
    match (Signal.ofWord? word).filter (· != 0) with
    | some number => .ok number
    | none => .error (Job.misuse call (call.quote word ++ ": invalid signal") 125)

/-- Signals are to be taken in some way. -/
def treat (surroundings : Surroundings) (numbers : List Nat) (isIgnored isLenient : Bool) :
    Surroundings :=
  { surroundings with
    treatments := (surroundings.treatments.filter fun treatment =>
      !numbers.contains treatment.number) ++ numbers.map (⟨·, isIgnored, isLenient⟩) }

/-- Signals are to wait, or not to wait. -/
def block (surroundings : Surroundings) (numbers : List Nat) (waits : Bool) : Surroundings :=
  { surroundings with
    blocking := (surroundings.blocking.filter fun entry => !numbers.contains entry.1) ++
      numbers.map ((·, waits)) }

/-- Adds what an option asks for. -/
def add (call : Invocation) (surroundings : Surroundings) :
    Char × String → Except Job Surroundings
  | ('i', _) => .ok { surroundings with isBare := true }
  | ('u', name) => .ok { surroundings with unset := surroundings.unset ++ [name] }
  | ('v', _) => .ok { surroundings with tells := true }
  | ('0', _) => .ok { surroundings with endsWithNul := true }
  | ('C', path) => .ok { surroundings with directory := some path }
  | ('Δ', _) => .ok ((surroundings.treat Signal.all false true).block Signal.all false)
  | ('Ι', _) => .ok (surroundings.treat Signal.all true true)
  | ('Β', _) => .ok (surroundings.block Signal.all true)
  | ('δ', value) =>
    (signalsOf call value).map fun numbers =>
      (surroundings.treat numbers false false).block numbers false
  | ('ι', value) => (signalsOf call value).map fun numbers => surroundings.treat numbers true false
  | ('β', value) => (signalsOf call value).map fun numbers => surroundings.block numbers true
  | ('λ', _) => .ok { surroundings with listsSignals := true }
  | ('S', _) => .ok surroundings
  | (blank, _) =>
    .error (Job.warn call ("invalid option -- '" ++ String.singleton blank ++ "'")
      (Job.misuse call "use -[v]S to pass options in shebang lines" 125))

/-- The options of `env`. -/
def accepted : Accepted :=
  { letters := "iu:C:S:v0 \t\n\x0b\x0c\rλ", attached := "διβ", leading := true, closing := some 'S'
    bare := [('δ', 'Δ'), ('ι', 'Ι'), ('β', 'Β')]
    names := [("ignore-environment", 'i'), ("null", '0'), ("unset", 'u'), ("chdir", 'C'),
      ("default-signal", 'δ'), ("ignore-signal", 'ι'), ("block-signal", 'β'),
      ("list-signal-handling", 'λ'), ("debug", 'v'), ("split-string", 'S')] }

/-! ### Preparing -/

/-- Takes the settings in front of a command. -/
def takeSettings (environment : Environment) (words : List String) :
    Environment × List String :=
  let settings := words.takeWhile (·.contains '=')
  (settings.foldl (fun environment word =>
    let name := (word.takeWhile (· != '=')).toString
    setName environment name (word.drop (name.length + 1)).toString) environment,
    words.drop settings.length)

/-- Takes names out of an environment. -/
def clear (call : Invocation) (surroundings : Surroundings) (next : Environment → Job)
    (environment : Environment) : List String → Job
  | [] => next environment
  | name :: rest =>
    surroundings.tell ["unset:    " ++ name] <|
      if name = "" ∨ name.contains '=' then
        Job.fail call ("cannot unset " ++ call.quote name ++ ": Invalid argument") 125
      else clear call surroundings next (environment.filter (·.1 != name)) rest

/-- The signals whose effect cannot be changed. -/
def fixedSignals : List Nat := [9, 19]

/-- Lets the process take signals as it is asked for. -/
def regard (call : Invocation) (surroundings : Surroundings) (next : Job) : Job :=
  let treatments := surroundings.treatments.mergeSort fun one other => one.number ≤ other.number
  let blocking := surroundings.blocking.mergeSort fun one other => one.1 ≤ other.1
  let change (signals : Signals) : Signals :=
    let rest := signals.ignored.filter fun number =>
      !treatments.any fun treatment => treatment.number == number
    let blocked := signals.blocked.filter fun number => !blocking.any (·.1 == number)
    { signals with
      ignored := rest ++ (treatments.filter fun treatment =>
        treatment.isIgnored && !fixedSignals.contains treatment.number).map (·.number)
      blocked := blocked ++ (blocking.filter fun entry =>
        entry.2 && !fixedSignals.contains entry.1).map (·.1) }
  let list (signals : Signals) (next : Job) : Job :=
    if !surroundings.listsSignals then next
    else
      Signal.all.foldr (fun number next =>
        let kinds := (if signals.blocked.contains number then ["BLOCK"] else []) ++
          (if signals.ignored.contains number then ["IGNORE"] else [])
        if kinds.isEmpty then next
        else Job.complain (left 10 (Signal.title number) ++ " (" ++
          right 2 (toString number) ++ "): " ++ String.intercalate "," kinds ++ "\n") next) next
  let told : List String :=
    blocking.map fun entry => "signal " ++ Signal.title entry.1 ++ " (" ++ toString entry.1 ++
      ") mask set to " ++ (if entry.2 then "BLOCK" else "UNBLOCK")
  let ending : Job := surroundings.tell told (.regard change fun signals => list signals next)
  treatments.foldr (fun treatment next =>
    let number := treatment.number
    let isFixed := fixedSignals.contains number
    if isFixed ∧ !treatment.isLenient then
      Job.fail call ("failed to set signal action for signal " ++ toString number ++
        ": Invalid argument") 125
    else
      surroundings.tell ["Reset signal " ++ Signal.title number ++ " (" ++ toString number ++
        ") to " ++ (if treatment.isIgnored then "IGNORE" else "DEFAULT") ++
        (if isFixed then " (failure ignored)" else "")] next) ending

/-- Runs a command in an environment. -/
def launch (call : Invocation) (surroundings : Surroundings) (environment : Environment)
    (words : List String) : Job :=
  let name := words.headD ""
  let told := ("executing: " ++ name) :: words.zipIdx.map fun (word, index) =>
    "   arg[" ++ toString index ++ "]= " ++ call.quote word
  let start : Job :=
    surroundings.tell told <| turnInto call call.quote environment words fun job =>
      if name.toList.any Arithmetic.isSpace then
        Job.warn call "use -[v]S to pass options in shebang lines" job
      else job
  regard call surroundings <|
    match surroundings.directory with
    | none => start
    | some path =>
      surroundings.tell ["chdir:    " ++ call.quoteName path] <| .enter path fun fault =>
        match fault with
        | none => start
        | some fault =>
          Job.fail call ("cannot change directory to " ++ call.quoteName path ++ ": " ++
            fault.message) 125

/-- Prepares the surroundings of the command among the words, or shows them if there is none. -/
def settle (call : Invocation) (surroundings : Surroundings) (words : List String) : Job :=
  let (isBare, words) := match words with
    | "-" :: rest => (true, rest)
    | all => (surroundings.isBare, all)
  let goOn (environment : Environment) : Job :=
    let (environment, command) := takeSettings environment words
    surroundings.tell ((words.take (words.length - command.length)).map ("setenv:   " ++ ·)) <|
      if surroundings.endsWithNul ∧ !command.isEmpty then
        Job.misuse call "cannot specify --null (-0) with command" 125
      else if surroundings.directory.isSome ∧ command.isEmpty then
        Job.misuse call "must specify command with --chdir (-C)" 125
      else if command.isEmpty then
        let ending := if surroundings.endsWithNul then "\x00" else "\n"
        Job.answer call (String.join (environment.map fun entry =>
          entry.1 ++ "=" ++ entry.2 ++ ending)) 0 125
      else launch call surroundings environment command
  if isBare then surroundings.tell ["cleaning environ"] (goOn [])
  else clear call surroundings goOn call.environment surroundings.unset

/-- Reads the arguments that are left; a text that holds several words takes the place of its
option. -/
def readOn (call : Invocation) : (measure : Nat) → Surroundings → List String → Job
  | 0, _, _ => .exit 125
  | measure + 1, surroundings, args =>
    let collect (arguments : Arguments) (next : Surroundings → Job) : Job :=
      match arguments.options.foldlM (add call) surroundings with
      | .ok surroundings => next surroundings
      | .error job => job
    accepted.read { call with args } 125
      (fun arguments =>
        collect arguments fun surroundings =>
          match arguments.value? 'S' with
          | none => settle call surroundings arguments.operands
          | some text =>
            let (splitting, fault) := Splitting.run call {} text.toList
            surroundings.tell splitting.notes.reverse <|
              match fault with
              | some fault => Job.fail call fault.message 125
              | none =>
                let words := splitting.result
                let told := match words with
                  | [] => []
                  | first :: others =>
                    ("split -S:  " ++ call.quote text) :: (" into:    " ++ call.quote first) ::
                      others.map fun word => "     &    " ++ call.quote word
                surroundings.tell told (readOn call measure surroundings (words ++ arguments.operands)))
      (fun arguments job => collect arguments fun _ => job)

end Surroundings

/-- The most texts of several words that are taken apart one after another. -/
def mostSplits : Nat := 10000

/-- The program `env`. -/
def env : Utility := fun call => Surroundings.readOn call mostSplits {} call.args

end Utility

end ArtifactLens.Shell
