import ArtifactLens.Shell.Builtin.Condition
import ArtifactLens.Shell.Builtin.Directory
import ArtifactLens.Shell.Builtin.Input
import ArtifactLens.Shell.Builtin.Names
import ArtifactLens.Shell.Builtin.Printing
import ArtifactLens.Shell.Builtin.Processes
import ArtifactLens.Shell.Builtin.Variables
import ArtifactLens.Shell.Task

/-!
# Simple commands

A simple command is expanded, its redirections are carried out, its assignments are made, and then
it is run: as a function, as a command of the shell, or as a program in a process of its own.
Assignments in front of a command last as long as the command, except before commands whose
failure ends the shell.
-/

namespace ArtifactLens.Shell

namespace Shell

/-- What stands in front of the lines that trace commands, the memory afterwards, and what is
complained about. The text is expanded as within quotes; one that cannot be stands for itself. -/
def tracePrompt (disk : Disk) (directory : FileNumber) (memory : Memory) : String × Memory × String :=
  let text := (memory.get? "PS4").getD ""
  let reader := Reader.ofText text 0 .empty
  let complaint (line : Nat) (fault : String) : String :=
    memory.name ++ ": " ++ toString line ++ ": " ++ fault ++ "\n"
  match (Parse.parts .document {} reader.measure).run { reader with beyond := some [] } with
  | .error fault => (text, memory, complaint fault.line fault.complaint)
  | .ok (pieces, _) =>
    match (Expand.parts { disk, directory, fields := false } pieces.toWord).run ⟨memory, []⟩ with
    | .ok (atoms, progress) => (Atom.textOf atoms, progress.memory, "")
    | .error (.fault (.complaint fault) memory) => (text, memory, complaint memory.line fault)
    | .error _ => (text, memory, "")

/-- The line that traces a command. -/
def traceLine (assigned : List (String × String)) (fields : List String) : String :=
  let assigned := assigned.map fun entry => entry.1 ++ "=" ++ entry.2
  String.intercalate " " (assigned ++ fields) ++ "\n"

/-- Settles with what a command of the shell replies. A refusal ends the shell if the command is a
special one. -/
def settleReply (reply : Reply) (name : String) (special : Bool) : Turn Shell :=
  let shell := reply.shell
  let told (shell : Shell) (text : String) : Shell :=
    if text = "" then shell else shell.push (.write 2 text none)
  let shown (shell : Shell) : Shell :=
    if reply.output = "" then shell else shell.push (.write 1 reply.output (some name))
  match reply.fault with
  | none => .went (told (shown (shell.settle reply.status)) reply.complaints)
  | some (.complaint text) =>
    if special then .went (shell.giveUp text)
    else
      .went (told (shown (shell.settle 2)) (reply.complaints ++ shell.message text))
  | some (.crash signal) => .ended (.signal signal)

/-- What a program that cannot be run leaves: a complaint and a status. -/
def notRun (shell : Shell) (name : String) (fault : SystemFault) : Job :=
  let status := match fault with
    | .missing | .notDirectory | .tooManyLinks => 127
    | _ => 126
  Job.complain (shell.message (name ++ ": " ++ Names.faultText fault)) (.exit status)

/-- Runs a program: in a process of its own, or in that of the shell if nothing remains to be done
in it. -/
def runProgram (shell : Shell) (name : String) (fields : List String) : Act (Turn Shell) := do
  let kernel ← get
  let directories := Names.directories shell.memory
  match Names.search? kernel.disk kernel.self.directory directories name with
  | none =>
    let fault := Names.searchFault kernel.disk kernel.self.directory directories name
    return .went (shell.complain (name ++ ": " ++ Names.faultText fault) 127)
  | some path =>
    let job := Job.become path fields shell.memory.environment (notRun shell name)
    if shell.isTail then return .became job
    else
      -- No signal has to wait any longer, neither for the program nor for the shell.
      let unblocked (signals : Signals) : Signals := { signals with blocked := [] }
      modify fun kernel => { kernel with self.signals := unblocked kernel.self.signals }
      let number ← startTask (.job job) []
      modify fun kernel => { kernel with self := Kernel.Process.regard kernel.self id }
      let shell := shell.forgetJob
      let tracked := if name.contains '/' ∨ shell.tracked.contains name then shell.tracked
        else name :: shell.tracked
      return .went ({ shell with tracked, mode := .settled }.push (.await [number] number))

/-- How many functions a command may stand in. -/
def mostCalls : Nat := 1000

/-- Calls a function. -/
def callFunction (shell : Shell) (body : Command) (args : List String) (tested : Bool) : Shell :=
  let memory := shell.memory
  if shell.calls < mostCalls then
    { shell.push (.call memory.positional memory.optionPlace shell.loops []) with
      memory := { memory with positional := args, optionPlace := {} }
      loops := 0, calls := shell.calls + 1, mode := .run body tested [] }
  else
    shell.giveUp ("Maximum function recursion depth (" ++ toString mostCalls ++ ") reached")

/-- Runs a text as commands. -/
def runText (shell : Shell) (kind : ScriptKind) (text : String) (tested : Bool) : Shell :=
  { shell with mode := .settled }.push
    (.script kind (Reader.ofText text shell.nextDocument shell.aliases) tested false)

/-- A number that an argument gives, if there is one. -/
def countOf (args : List String) (standard : Nat) : Except String Nat :=
  match args with
  | [] => .ok standard
  | arg :: _ =>
    match Argument.number? arg with
    | some n => .ok n
    | none => .error (Argument.badNumber arg)

/-- The command `break` or `continue`. -/
def leaveLoops (shell : Shell) (args : List String) (leap : Nat → Leap) : Turn Shell :=
  match countOf args 1 with
  | .error complaint => .went (shell.giveUp complaint)
  | .ok 0 => .went (shell.giveUp (Argument.badNumber "0"))
  | .ok depth =>
    let shell := shell.settle 0
    if shell.loops = 0 then .went shell
    else .went { shell with mode := .leap (leap (min depth shell.loops)) }

/-- The command `.`, which runs the commands of a file. -/
def runFile (shell : Shell) (args : List String) (tested special : Bool) : Act (Turn Shell) := do
  let refuse (text : String) : Turn Shell := settleReply (.refuse shell text) "." special
  match Argument.options "" args with
  | .error fault => return refuse (Argument.optionComplaint fault)
  | .ok (_, []) => return .went (shell.settle 0)
  | .ok (_, name :: _) =>
    let kernel ← get
    let here := kernel.self.directory
    let isFile (path : String) : Bool :=
      match kernel.disk.inspect here path with
      | .ok (_, file) => file.isRegular
      | _ => false
    let path? := if name.contains '/' then some name
      else
        (((Names.directories shell.memory).splitOn ":").map fun directory =>
          if directory = "" then name else directory ++ "/" ++ name).find? isFile
    match path? with
    | none => return refuse (name ++ ": not found")
    | some path =>
      match kernel.disk.inspect here path with
      | .ok (_, { body := .octets content, .. }) =>
        return .went (({ shell with commandName := some path }).runText .included content tested)
      | .ok (_, { body := .device .null, .. }) => return .went (shell.settle 0)
      | .ok _ => return refuse (path ++ ": Is a directory")
      | .error fault =>
        return refuse ("cannot open " ++ path ++ ": " ++ Redirecting.openFault false fault)

/-- The command `wait`. -/
def waitFor (shell : Shell) (args : List String) : Turn Shell :=
  let known (text : String) : Except String (Option BackgroundJob) :=
    if text.startsWith "%" then (Processes.jobFor shell.jobs (some text)).map some
    else
      match Argument.number? text with
      | none => .error (Argument.badNumber text)
      | some number =>
        .ok (shell.jobs.reverse.find? fun job => job.processes.getLast? == some number)
  match Argument.options "" args with
  | .error fault => settleReply (.refuse shell (Argument.optionComplaint fault)) "wait" false
  | .ok (_, []) =>
    let all := shell.jobs.flatMap BackgroundJob.processes
    .went ({ shell with mode := .settled }.push (.awaitJobs all none))
  | .ok (_, names) =>
    match names.mapM known with
    | .error complaint => settleReply (.refuse shell complaint) "wait" false
    | .ok targets =>
      .went <| targets.foldr (fun target shell =>
        match target with
        | some job => shell.push (.awaitJobs job.processes job.processes.getLast?)
        | none => shell.push (.trapped 127)) { shell with mode := .settled }

/-- The command `read`. -/
def readLine (shell : Shell) (args : List String) : Turn Shell :=
  match Argument.options "p:r" args with
  | .error fault => settleReply (.refuse shell (Argument.optionComplaint fault)) "read" false
  | .ok (_, []) => settleReply (.refuse shell "arg count") "read" false
  | .ok (options, names) =>
    .went ({ shell with mode := .settled }.push
      (.readLine (options.any (·.1 == 'r')) names ""))

/-- Runs a command of the shell by its name. `special` tells that its refusal ends the shell. -/
def runBuiltin (shell : Shell) (name : String) (args : List String) (special tested : Bool) :
    Act (Turn Shell) := do
  let kernel ← get
  let disk := kernel.disk
  let here := kernel.self.directory
  let answer (reply : Reply) : Act (Turn Shell) := return settleReply reply name special
  match name with
  | ":" | "true" => return .went (shell.settle 0)
  | "false" => return .went (shell.settle 1)
  | "echo" => answer (Builtin.echo shell args)
  | "printf" => answer (Builtin.printf shell args)
  | "test" | "[" => answer (Builtin.test disk here shell name args)
  | "export" =>
    answer (Builtin.marking "export" (·.isExported) (fun v => { v with isExported := true }) shell args)
  | "readonly" =>
    answer
      (Builtin.marking "readonly" (·.isReadOnly) (fun v => { v with isReadOnly := true }) shell args)
  | "unset" => answer (Builtin.unsetNames shell args)
  | "local" => answer (Builtin.declareLocal shell args)
  | "set" => answer (Builtin.setParameters shell args)
  | "shift" => answer (Builtin.shift shell args)
  | "getopts" => answer (Builtin.getopts shell args)
  | "alias" => answer (Builtin.defineAliases shell args)
  | "unalias" => answer (Builtin.removeAliases shell args)
  | "type" => answer (Names.type disk here shell args)
  | "hash" => answer (Names.hash disk here shell args)
  | "cd" | "chdir" => answer (← Directory.change shell args)
  | "pwd" => answer (← Directory.print shell args)
  | "umask" => answer (← Directory.permissions shell args)
  | "kill" => answer (← Processes.kill shell args)
  | "trap" => answer (← Processes.trap shell args)
  | "jobs" => answer (← Processes.jobs shell args)
  | "times" =>
    answer { shell, output := "0m0.000000s 0m0.000000s\n0m0.000000s 0m0.000000s\n" }
  | "ulimit" => answer { shell, output := "unlimited\n" }
  | "fg" | "bg" => answer (Processes.resumeJob shell args)
  | "eval" =>
    let text := String.intercalate " " args
    return .went (if text = "" then shell.settle 0 else shell.runText .evaluated text tested)
  | "." => runFile shell args tested special
  | "break" => return leaveLoops shell args .leaveLoop
  | "continue" => return leaveLoops shell args .nextRound
  | "return" =>
    match countOf args shell.memory.status with
    | .error complaint => return .went (shell.giveUp complaint)
    | .ok status => return .went { shell.settle status with mode := .leap .fromCall }
  | "exit" =>
    match countOf args shell.memory.status with
    | .error complaint => return .went (shell.giveUp complaint)
    | .ok status => return .went { shell.settle status with mode := .leap .fromShell }
  | "wait" => return waitFor shell args
  | "read" => return readLine shell args
  | _ => return .went (shell.settle 0)

/-- Tells what names mean, as `command -v` and `command -V` do. -/
def describeCommand (shell : Shell) (verbose : Bool) (names : List String) : Act (Turn Shell) := do
  let kernel ← get
  match names with
  | [] => return .went (shell.settle 0)
  | name :: _ =>
    let (output, status) :=
      Names.describe kernel.disk kernel.self.directory shell verbose name
    return settleReply { shell, output, status } "command" false

/-- Runs a command by its fields after the redirections. `kept` are the variables that are put back
afterwards; `plainly` tells that the command `command` stands in front, which passes over functions
and keeps a refusal from ending the shell. -/
def dispatch (shell : Shell) (tested plainly : Bool) :
    (measure : Nat) → List String → Act (Turn Shell)
  | 0, _ => return .went (shell.settle 0)
  | _, [] => return .went (shell.settle 0)
  | measure + 1, name :: args => do
    let function? := if plainly ∨ name.contains '/' then none else shell.functions.get? name
    match function? with
    | some body => return .went (callFunction shell body args tested)
    | none =>
      if name = "command" then
        match Argument.options "pvV" args with
        | .error fault =>
          let shell := { shell.push (.named shell.commandName) with commandName := some name }
          return settleReply (.refuse shell (Argument.optionComplaint fault)) name false
        | .ok (options, rest) =>
          match options.find? fun option => option.1 == 'v' || option.1 == 'V' with
          | some option => describeCommand shell (option.1 == 'V') rest
          | none => dispatch shell tested true measure rest
      else if Names.isBuiltin name then
        -- A script that is run by `command` does not end the shell when it gives up.
        let runsScript := name = "eval" ∨ name = "."
        let shell := if plainly ∧ runsScript then shell.push (.guard shell.loops) else shell
        let shell := { shell.push (.named shell.commandName) with commandName := some name }
        runBuiltin shell name args (Names.isSpecial name && !plainly) tested
      else runProgram shell name (name :: args)

/-- Turns the shell into a program. -/
def execute (shell : Shell) (fields : List String) : Act (Turn Shell) := do
  let kernel ← get
  let name := fields.headD ""
  let shell := { shell with commandName := some "exec" }
  let directories := Names.directories shell.memory
  match Names.search? kernel.disk kernel.self.directory directories name with
  | none =>
    let fault := Names.searchFault kernel.disk kernel.self.directory directories name
    return .went (shell.giveUp (name ++ ": " ++ Names.faultText fault)
      (if fault = .missing then 127 else 126))
  | some path => return .became (.become path fields shell.memory.environment (notRun shell name))

/-- The fields without the words and options of `command` in front. -/
def withoutCommand : List String → List String
  | "command" :: rest => withoutCommand rest
  | fields => fields

/-- The field is that of a special command of the shell, which a failure of ends the shell. -/
def callsSpecial (shell : Shell) (fields : List String) : Bool :=
  match fields with
  | [] => false
  | name :: _ => Names.isSpecial name && (shell.functions.get? name).isNone

/-- Makes assignments, one after another. -/
def assignAll (assignments : List (String × Word)) (context : Context) :
    Expand (List (String × String)) :=
  assignments.mapM fun entry => do
    let value ← Expand.text context true entry.2
    Expand.assign entry.1 value
    pure (entry.1, value)

/-- Makes the assignments of a simple command and runs it. -/
def runPrepared (shell : Shell) (prepared : Prepared) (tested : Bool) (answers : List String) :
    Act (Turn Shell) :=
  let fields := prepared.fields
  let inner := withoutCommand fields
  let persists := fields.isEmpty || shell.callsSpecial fields
  expanding shell (.assignments prepared tested) answers (assignAll prepared.assignments)
    fun assigned memory => do
      let mark (marked : Variable → Variable) (memory : Memory) : Memory :=
        assigned.foldl (fun memory entry => memory.mark entry.1 marked) memory
      let isExec := inner.head? = some "exec"
      let last := if persists && !(isExec && inner.length > 1) then memory
        else mark (fun v => { v with isExported := true }) memory
      let own := assigned.map fun entry => (entry.1, shell.memory.bindings.get? entry.1)
      let shell := if persists || own.isEmpty then shell else shell.push (.bindings own)
      let shell := shell.remember last
      let shell ← if memory.has 'x' then do
          let kernel ← get
          let (prompt, changed, complaint) := tracePrompt kernel.disk kernel.self.directory last
          let descriptor := (prepared.kept.find? (·.1 == 2)).bind (·.2) |>.getD 2
          let _ ← Sys.write descriptor (complaint ++ prompt ++ traceLine assigned fields)
          pure (shell.remember changed)
        else pure shell
      if fields.isEmpty then
        let substituted := prepared.hasSubstituted || !answers.isEmpty
        return .went (shell.settle (if substituted then shell.substituted else 0))
      else if isExec then
        -- The redirections of `exec` last.
        let shell := { shell with frames := shell.frames.filter fun frame =>
          match frame with
          | .redirected kept => kept != prepared.kept
          | _ => true }
        prepared.kept.forM fun entry => entry.2.forM Sys.close
        if inner.length ≤ 1 then return .went (shell.settle 0) else execute shell (inner.drop 1)
      else dispatch shell tested false (fields.length + 1) fields

/-- Runs a simple command: expands its words and carries out its redirections first. -/
def runSimple (shell : Shell) (command : Command) (line : Nat)
    (assignments : List (String × Word)) (words : List Word) (redirections : List Redirection)
    (tested : Bool) (answers : List String) : Act (Turn Shell) :=
  let shell := shell.remember { shell.memory with line }
  let expand (context : Context) : Expand (List String × List Target) := do
    let fields ← Expand.commandFields context [] words
    let targets ← redirections.mapM (Target.expand context shell.documents)
    return (fields, targets)
  expanding shell (.command command tested) answers expand fun (fields, targets) memory =>
    redirecting (shell.remember memory) targets
      (fun shell kept =>
        let prepared : Prepared :=
          { fields, assignments, kept, hasSubstituted := !answers.isEmpty }
        if assignments.isEmpty then runPrepared shell prepared tested []
        else return .went { shell with mode := .assign prepared tested [] })
      (fun shell => return .went (if shell.callsSpecial fields then shell.fail 2 else shell.settle 2))

end Shell

end ArtifactLens.Shell
