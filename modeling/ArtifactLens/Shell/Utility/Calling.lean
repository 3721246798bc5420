import ArtifactLens.Shell.Utility.Amount
import ArtifactLens.Shell.Utility.Expressions
import ArtifactLens.Shell.Utility.Filing
import ArtifactLens.Shell.Utility.Launching
import ArtifactLens.Shell.Utility.Sequence

/-!
# Calling other programs

Programs that wait, and programs that call others: in another manner, or for a limited time.
-/

namespace ArtifactLens.Shell

namespace Utility

/-! ### Time -/

/-- The nanoseconds of a span of time, which may be endless. -/
inductive Span where
  | nanoseconds (count : Nat)
  | endless

/-- The seconds that a letter after a number stands for. -/
def unitOf? (suffix : List Char) : Option Nat :=
  match suffix with
  | [] | ['s'] => some 1
  | ['m'] => some 60
  | ['h'] => some 3600
  | ['d'] => some 86400
  | _ => none

/-- Reads a span of time: a number of seconds, or of what a letter after it stands for. -/
def span? (text : String) : Option Span := do
  let numeral ← Conversion.readFloat text.toList
  let unit ← unitOf? numeral.rest
  match numeral.toBinary64.1 with
  | .nan => none
  | .infinite negative => if negative then none else some .endless
  | value =>
    let seconds ← value.toRat?
    if seconds < 0 then none
    else some (.nanoseconds (seconds * unit * 1000000000).floor.toNat)

/-- Lets a span of time pass. -/
def pass (span : Span) (next : Job) : Job :=
  match span with
  | .nanoseconds count => .pause count next
  | .endless => .pause 1000000000000000000000 next

/-- The program `sleep`. -/
def sleep : Utility := fun call =>
  ({ letters := "" } : Accepted).read call 1 fun arguments =>
    match arguments.operands with
    | [] => Job.misuse call "missing operand"
    | operands =>
      match operands.filter fun operand => (span? operand).isNone with
      | [] => (operands.filterMap span?).foldr pass (.exit 0)
      | wrong =>
        let texts := wrong.map fun operand => "invalid time interval " ++ call.quote operand
        (texts.dropLast).foldr (Job.warn call) (Job.misuse call (texts.getLastD ""))

/-! ### Manners of running -/

/-- The program `nohup`. -/
def nohup : Utility := fun call =>
  let failure := if (call.value? "POSIXLY_CORRECT").isSome then 127 else 125
  ({ letters := "", leading := true } : Accepted).read call failure fun arguments =>
    if arguments.operands.isEmpty then Job.misuse call "missing operand" failure
    else
      .regard (fun signals => { signals with ignored := 1 :: signals.ignored.erase 1 }) fun _ =>
        turnInto call (fun name => "failed to run command " ++ call.quoteName name)
          call.environment arguments.operands

/-- The argument is a number that tells how much to give way. -/
def isAdjustment (arg : String) : Bool :=
  match arg.toList with
  | '-' :: '-' :: c :: _ | '-' :: '+' :: c :: _ => c.isDigit
  | '-' :: c :: _ => c.isDigit
  | _ => false

/-- The value of a text that tells how much to give way. -/
def adjustment? (text : String) : Option Int :=
  match Amount.read "" true text with
  | .ok value => some (max (-39) (min 39 value))
  | .error .tooLarge =>
    some (if (text.toList.dropWhile Arithmetic.isSpace).head? = some '-' then -39 else 39)
  | .error _ => none

/-- Reads the options of `nice`, of which each may be a number, and runs the command after them. -/
def giveWay (call : Invocation) (given : Option String) : (measure : Nat) → List String → Job
  | 0, _ => .exit 125
  | measure + 1, args =>
    let run (command : List String) : Job :=
      match given.map fun text => (text, adjustment? text) with
      | some (text, none) => Job.fail call ("invalid adjustment " ++ call.quote text) 125
      | adjustment =>
        match command with
        | [] =>
          if given.isSome then
            Job.misuse call "a command must be given with an adjustment" 125
          else .yield 0 fun niceness => Job.answer call (toString niceness ++ "\n") 0 125
        | _ =>
          .yield ((adjustment.bind (·.2)).getD 10) fun _ =>
            turnInto call call.quote call.environment command
    let read (args : List String) : Job :=
      let accepted : Accepted :=
        { letters := "n:", names := [("adjustment", 'n')], leading := true, closing := some 'n' }
      accepted.read { call with args } 125 fun arguments =>
        match arguments.value? 'n' with
        | some text => giveWay call (some text) measure arguments.operands
        | none => run arguments.operands
    match args with
    | arg :: rest =>
      if isAdjustment arg then giveWay call (some (arg.drop 1).toString) measure rest else read args
    | [] => read args

/-- The program `nice`. -/
def nice : Utility := fun call => giveWay call none (call.args.length + 1) call.args

/-- The program `setsid`. -/
def setsid : Utility := fun call =>
  let accepted : Accepted :=
    { letters := "Vhcfw", leading := true, package := "util-linux 2.38.1"
      names := [("version", 'V'), ("help", 'h'), ("ctty", 'c'), ("fork", 'f'), ("wait", 'w')] }
  accepted.read call 1 fun arguments =>
    let command := arguments.operands
    let run : Job := .become (if (command.headD "").contains '/' then command.headD "" else "") command
      call.environment fun fault =>
        Job.fail call ("failed to execute " ++ command.headD "" ++ ": " ++ fault.message)
          (if fault = .missing then 127 else 126)
    match arguments.options.find? fun option => option.1 == 'V' || option.1 == 'h' with
    | some ('V', _) => Job.answer call (call.name ++ " from util-linux 2.38.1\n")
    | some _ => Job.answer call ("\nUsage:\n " ++ call.name ++
        " [options] <program> [arguments ...]\n")
    | none =>
      if command.isEmpty then Job.misuse call "no command specified"
      else if arguments.has 'f' then
        .spawn run true fun process =>
          if arguments.has 'w' then
            .await process none fun ending =>
              match ending with
              | some (.exit status) => .exit status
              | some (.signal number) =>
                Job.fail call ("child " ++ toString process ++ " did not exit normally") number
              | none => .exit 0
          else .exit 0
      else run

/-- A way of keeping output back that is asked for, or what is wrong with it. -/
def bufferMode (call : Invocation) (letter : Char) (text : String) : Except Job String :=
  let text := String.ofList (text.toList.dropWhile Arithmetic.isSpace)
  if letter = 'i' ∧ text.startsWith "L" then
    .error (Job.misuse call "line buffering stdin is meaningless" 125)
  else if text = "L" then .ok text
  else
    match Amount.read "EGkKMPTYZ0" false text with
    | .ok size => .ok (toString size)
    | .error fault =>
      .error (Job.fail call ("invalid mode " ++ call.quote text ++
        (if fault = .tooLarge then ": Value too large for defined data type" else "")) 125)

/-- The program `stdbuf`: the command learns by its environment how to keep its output back. -/
def stdbuf : Utility := fun call =>
  let accepted : Accepted :=
    { letters := "i:o:e:", leading := true
      names := [("input", 'i'), ("output", 'o'), ("error", 'e')] }
  let modes (arguments : Arguments) (next : List (Char × String) → Job) : Job :=
    match arguments.options.mapM fun (letter, text) =>
        (bufferMode call letter text).map (letter, ·) with
    | .ok modes => next modes
    | .error job => job
  accepted.read call 125
    (fun arguments => modes arguments fun modes =>
      if arguments.operands.isEmpty then Job.misuse call "missing operand" 125
      else if modes.isEmpty then Job.misuse call "you must specify a buffering mode option" 125
      else
        let set (environment : Environment) (letter : Char) : Environment :=
          match (modes.reverse.find? (·.1 == letter)).map (·.2) with
          | some mode => setName environment ("_STDBUF_" ++ String.singleton letter.toUpper) mode
          | none => environment
        let library := "/usr/libexec/coreutils/libstdbuf.so"
        let libraries := ((call.value? "LD_PRELOAD").map (· ++ ":" ++ library)).getD library
        let environment := setName (['i', 'o', 'e'].foldl set call.environment) "LD_PRELOAD" libraries
        turnInto call (fun name => "failed to run command " ++ call.quote name) environment
          arguments.operands)
    (fun arguments job => modes arguments fun _ => job)

/-! ### The disk as a whole -/

/-- The program `sync`: files are always in step, but they have to be there. -/
def sync : Utility := fun call =>
  let accepted : Accepted := { letters := "df", names := [("data", 'd'), ("file-system", 'f')] }
  accepted.read call 1 fun arguments =>
    if arguments.has 'd' ∧ arguments.has 'f' then
      Job.fail call "cannot specify both --data and --file-system"
    else if arguments.operands.isEmpty ∧ arguments.has 'd' then
      Job.fail call "--data needs at least one argument"
    else
      let check : Filing Unit := do
        for path in arguments.operands do
          let name ← Filing.quoteName path
          match ← Filing.inspect path with
          | .error fault => Filing.complainOf ("error opening " ++ name) fault
          | .ok (_, { body := .device _, .. }) =>
            if !arguments.has 'f' then
              Filing.complain ("error syncing " ++ name ++ ": Invalid argument")
          | .ok _ => pure ()
      Filing.job call check

/-! ### Limited time -/

/-- How a command is limited. -/
structure TimeLimit where
  signal : Nat := 15
  killAfter : Option Span := none
  foreground : Bool := false
  keepsStatus : Bool := false
  tells : Bool := false

/-- Ends like a command that was limited. -/
def TimeLimit.finish (limit : TimeLimit) (expired : Bool) : Ending → Job
  | .exit status => .exit (if expired ∧ !limit.keepsStatus then 124 else status)
  | .signal number =>
    if !expired ∨ number = 9 then
      .own fun own => .signal own number false (.exit (128 + number))
    else .exit (if limit.keepsStatus then 128 + number else 124)

/-- Waits for the end of a command whose time has run out. -/
def TimeLimit.awaitEnd (limit : TimeLimit) (process : Nat) : Job :=
  .await process none fun ending => limit.finish true (ending.getD (.exit 0))

/-- Sends a signal to a limited command. -/
def TimeLimit.send (call : Invocation) (limit : TimeLimit) (process number : Nat) (name : String)
    (next : Job) : Job :=
  let send : Job := .signal process number (!limit.foreground) (
    if number = 9 ∨ number = 18 then next
    else .signal process 18 (!limit.foreground) next)
  if limit.tells then
    Job.warn call ("sending signal " ++ Signal.title number ++
      " to command " ++ call.quote name) send
  else send

/-- Runs a command for a limited time. -/
def TimeLimit.run (call : Invocation) (limit : TimeLimit) (span : Span) (words : List String) :
    Job :=
  let name := words.headD ""
  .spawn (runCommand call words) (!limit.foreground) fun process =>
    let duration : Option Nat := match span with
      | .endless | .nanoseconds 0 => none
      | .nanoseconds count => some count
    .await process duration fun ending =>
      match ending with
      | some ending => limit.finish false ending
      | none =>
        limit.send call process limit.signal name <|
          match limit.killAfter with
          | some (.nanoseconds count) =>
            if count = 0 then limit.awaitEnd process
            else
              .await process (some count) fun ending =>
                match ending with
                | some ending => limit.finish true ending
                | none => limit.send call process 9 name (limit.awaitEnd process)
          | _ => limit.awaitEnd process

/-- The program `timeout`. -/
def timeout : Utility := fun call =>
  let accepted : Accepted :=
    { letters := "k:s:vfp", leading := true
      names := [("foreground", 'f'), ("kill-after", 'k'), ("preserve-status", 'p'), ("signal", 's'),
        ("verbose", 'v')] }
  accepted.read call 125 fun arguments =>
    let hint : Job :=
      Job.complain ("Try '" ++ call.name ++ " --help' for more information.\n") (.exit 125)
    let badTime (text : String) : Job :=
      Job.misuse call ("invalid time interval " ++ call.quote text) 125
    let signal? := (arguments.value? 's').map fun text => (text, Signal.ofWord? text)
    match signal? with
    | some (text, none) => Job.misuse call (call.quote text ++ ": invalid signal") 125
    | _ =>
      let killAfter := arguments.value? 'k'
      match killAfter.filter fun text => (span? text).isNone with
      | some text => badTime text
      | none =>
        match arguments.operands with
        | [] | [_] => hint
        | duration :: words =>
          match span? duration with
          | none => badTime duration
          | some span =>
            let limit : TimeLimit := {
              signal := ((signal?.bind (·.2)).getD 15)
              killAfter := killAfter.bind span?
              foreground := arguments.has 'f', keepsStatus := arguments.has 'p'
              tells := arguments.has 'v' }
            limit.run call span words

end Utility

end ArtifactLens.Shell
