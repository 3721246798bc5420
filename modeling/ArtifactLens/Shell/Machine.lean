import ArtifactLens.Shell.Command

/-!
# The machine

A turn of a shell takes one step: it starts a command, or goes on with the frame on top. A turn of
a job grants its next request. The machine gives every process its turns, one process after
another; when none of them can go on, time passes up to the next moment that one waits for. Every
step takes a microsecond, so that a process that never rests still lets time pass.
-/

namespace ArtifactLens.Shell

namespace Shell

/-- Starts a command. -/
def begin (shell : Shell) (command : Command) (tested : Bool) (answers : List String) :
    Act (Turn Shell) := do
  let run (shell : Shell) (command : Command) (tested : Bool) : Turn Shell :=
    .went { shell with mode := .run command tested [] }
  let watched (shell : Shell) : Shell := if tested then shell else shell.push .checked
  if shell.memory.has 'n' then return .went { shell with mode := .settled }
  else match command with
  | .empty => return .went { shell with mode := .settled }
  | .sequence first second => return run (shell.push (.next second tested)) first tested
  | .both first second => return run (shell.push (.branch true second tested)) first true
  | .either first second => return run (shell.push (.branch false second tested)) first true
  | .negate body => return run (shell.push .negate) body true
  | .conditional test yes no => return run (shell.push (.choice yes no tested)) test true
  | .loop isUntil test body =>
    let shell := { shell with loops := shell.loops + 1 }
    return run (shell.push (.test isUntil test body tested 0)) test true
  | .each line name words body =>
    let shell := shell.remember { shell.memory with line }
    expanding shell (.command command tested) answers
      (fun context => words.flatMapM (Expand.fields context))
      fun values memory =>
        let shell := shell.remember memory
        if values.isEmpty then return .went (shell.settle 0)
        else
          return .went ({ shell with loops := shell.loops + 1, mode := .settled }.push
            (.each name values body tested))
  | .select line word clauses =>
    let shell := shell.remember { shell.memory with line }
    let search (context : Context) : Expand (Option Command) := do
      let text ← Expand.text context false word
      let rec patterns : List Word → Expand Bool
        | [] => return false
        | pattern :: rest => do
          if Pattern.isMatch (← Expand.pattern context pattern) text.toList then return true
          else patterns rest
      let rec choose : List (List Word × Command) → Expand (Option Command)
        | [] => return none
        | (ps, body) :: rest => do
          if ← patterns ps then return some body else choose rest
      choose clauses
    expanding shell (.command command tested) answers search fun chosen memory =>
      let shell := shell.remember memory
      match chosen with
      | none | some .empty => return .went (shell.settle 0)
      | some body => return run shell body tested
  | .define name body =>
    return .went ({ shell with functions := shell.functions.insert name body }.settle 0)
  | .redirected line body redirections =>
    let shell := shell.remember { shell.memory with line }
    expanding shell (.command command tested) answers
      (fun context => redirections.mapM (Target.expand context shell.documents))
      fun targets memory =>
        redirecting (shell.remember memory) targets
          (fun shell _ => return run shell body tested)
          (fun shell => return .went (shell.settle 2))
  | .subshell line body redirections =>
    let shell := shell.remember { shell.memory with line }
    if shell.isTail then
      let inner := if redirections.isEmpty then body else .redirected line body redirections
      return run (watched shell) inner tested
    else
      let inner := if redirections.isEmpty then body else .redirected line body redirections
      let number ← startFork shell inner tested []
      return .went ({ watched shell.forgetJob with mode := .settled }.push
        (.await [number] number))
  | .background body redirections =>
    let inner := if redirections.isEmpty then body
      else .redirected shell.memory.line body redirections
    let input ← emptyInput
    let number ← startFork shell inner tested [(0, input)] true
    return .went ((shell.noteJob [number]).settle 0)
  | .pipeline commands background =>
    let numbers ← startMembers shell tested background none [] commands
    if background then return .went ((shell.noteJob numbers.reverse).settle 0)
    else
      return .went ({ watched shell.forgetJob with mode := .settled }.push
        (.await numbers.reverse (numbers.headD 0)))
  | .simple line assignments words redirections =>
    runSimple (watched shell) command line assignments words redirections tested answers

/-- The text that tells of a process that ended by a signal. -/
def deathNotice : Ending → String
  | .exit _ => ""
  | .signal number =>
    if number = 2 ∨ number = 13 then "" else Signal.description number ++ "\n"

/-- Tells of a process that ended by a signal. -/
def noticing (shell : Shell) (ending : Ending) : Shell :=
  let notice := deathNotice ending
  if notice = "" then shell else shell.push (.write 2 notice none)

/-- Reads the next command of a script. -/
def readScript (shell : Shell) (kind : ScriptKind) (reader : Reader) (tested hasRun : Bool) :
    Turn Shell :=
  let reader := { reader with aliases := shell.aliases, nextDocument := shell.nextDocument }
  match reader.next with
  | .error fault =>
    let memory := { shell.memory with line := fault.line }
    .went ((shell.remember memory).giveUp fault.complaint)
  | .ok (none, _) => .went (if hasRun ∨ kind = .whole then shell else shell.settle 0)
  | .ok (some command, reader) =>
    let shell := { shell with
      documents := reader.documents ++ shell.documents, nextDocument := reader.nextDocument }
    let isBlank : Bool := match command with
      | .empty => true
      | _ => false
    let shell := shell.push
      (.script kind { reader with documents := [] } tested (hasRun || !isBlank))
    if isBlank ∨ shell.memory.has 'n' then .went shell
    else .went { shell with mode := .run command tested [] }

/-- Waits for processes that the shell started. -/
def await (shell : Shell) (processes : List Nat) (last : Nat) : Act (Turn Shell) := do
  if processes.isEmpty then return .went shell
  else
    let endings ← processes.mapM Sys.ending?
    match (processes.zip endings).find? (·.2.isSome) with
    | some (number, some ending) =>
      Sys.bury number
      let shell := if number = last then
          shell.remember { shell.memory with status := ending.status } else shell
      let rest := processes.filter (· != number)
      let jobs ← Processes.survey shell.jobs
      let shell := { shell with jobs }
      let shell := if rest.isEmpty then shell else shell.push (.await rest last)
      return .went (noticing shell ending)
    | _ => return .blocked (shell.push (.await processes last))

/-- Waits for processes in the background, unless a caught signal comes in. -/
def awaitJobs (shell : Shell) (processes : List Nat) (last : Option Nat) : Act (Turn Shell) := do
  let kernel ← get
  match kernel.self.signals.pending.getLast? with
  | some signal => return .went (shell.settle (128 + signal))
  | none =>
    let live := kernel.others.any fun process =>
      processes.contains process.number && process.ending.isNone
    if live then return .blocked (shell.push (.awaitJobs processes last))
    else
      let isAwaited (job : BackgroundJob) : Bool := job.processes.any processes.contains
      let wasKnown := shell.jobs.any fun job => isAwaited job && job.ending.isSome
      let jobs := (← Processes.survey shell.jobs).map fun job =>
        if isAwaited job then { job with wasAwaited := true } else job
      let shell := { shell with jobs }
      match last with
      | none => return .went (shell.settle 0)
      | some _ =>
        let ending := ((jobs.find? isAwaited).bind (·.ending)).getD (.exit 0)
        let shell := shell.settle ending.status
        return .went (if wasKnown then shell else noticing shell ending)

/-- Collects the output of a substitution. -/
def collect (shell : Shell) (process descriptor : Nat) (pieces : List String) (needed : Needed)
    (answers : List String) : Act (Turn Shell) := do
  let later (pieces : List String) : Shell :=
    shell.push (.collect process descriptor pieces needed answers)
  match ← Sys.read descriptor with
  | .text "" =>
    match ← Sys.ending? process with
    | none => return .blocked (later pieces)
    | some ending =>
      Sys.bury process
      Sys.close descriptor
      let output := String.join pieces.reverse
      let shell := { shell with
        substituted := ending.status, mode := needed.mode (answers ++ [output]) }
      -- The command is left aside while the death of the process is told.
      let notice := deathNotice ending
      if notice ≠ "" then
        let _ ← Sys.write 2 notice
      return .went shell
  | .text piece => return .went (later (piece :: pieces))
  | .blocked => return .blocked (later pieces)
  | .fault _ => return .went (later pieces)

/-- Reads a line into variables. -/
def continueLine (shell : Shell) (raw : Bool) (names : List String) (text : String) :
    Act (Turn Shell) := do
  let finish (text : String) (status : Nat) : Turn Shell :=
    match Input.assign shell.memory raw names text with
    | .ok memory => .went ((shell.remember memory).settle status)
    | .error (.complaint complaint) => .went (shell.complain complaint 2)
    | .error (.crash signal) => .ended (.signal signal)
  match ← Sys.read 0 .line with
  | .text "" => return finish text 1
  | .text piece =>
    let text := text ++ piece
    if piece.endsWith "\n" ∧ (raw ∨ !Input.goesOn text) then return finish text 0
    else return .went (shell.push (.readLine raw names text))
  | .blocked => return .blocked (shell.push (.readLine raw names text))
  | .fault _ => return finish text 1

/-- Writes a text. -/
def continueWrite (shell : Shell) (descriptor : Nat) (text : String) (teller : Option String) :
    Act (Turn Shell) := do
  match ← Sys.write descriptor text with
  | .done => return .went shell
  | .remaining rest =>
    let shell := shell.push (.write descriptor rest teller)
    return if rest.length = text.length then .blocked shell else .went shell
  | .fault _ =>
    match teller with
    | none => return .went shell
    | some name =>
      let named := { shell with commandName := some name }
      return .went ((shell.settle 1).push
        (.write 2 (named.message (name ++ ": I/O error")) none))

/-- A round of a loop begins with its condition. -/
def nextTest (shell : Shell) (isUntil : Bool) (test body : Command) (tested : Bool) (last : Nat) :
    Turn Shell :=
  .went { shell.push (.test isUntil test body tested last) with mode := .run test true [] }

/-- A loop has come to its end. -/
def leaveLoop (shell : Shell) : Shell := { shell with loops := shell.loops - 1 }

/-- Puts back what a function had changed for itself. -/
def leaveCall (shell : Shell) (positional : List String) (place : OptionPlace) (loops : Nat)
    (kept : List (String × Option Variable)) : Shell :=
  let memory := kept.foldl (fun m entry => m.putBack entry.1 entry.2) shell.memory
  let memory := { memory with positional, optionPlace := place }
  let shell := { shell with memory, loops, calls := shell.calls - 1 }
  match kept.find? fun entry => !isVariableName entry.1 && entry.1 != Memory.optionsName with
  | some (name, _) => shell.giveUp (name ++ ": bad variable name")
  | none => shell

/-- Goes on with the frame on top, which has been taken off. -/
def resume (shell : Shell) (frame : Frame) : Act (Turn Shell) := do
  let status := shell.memory.status
  let run (shell : Shell) (command : Command) (tested : Bool) : Turn Shell :=
    .went { shell with mode := .run command tested [] }
  match frame with
  | .next second tested => return run shell second tested
  | .branch onSuccess second tested =>
    return if (status == 0) == onSuccess then run shell second tested else .went shell
  | .negate => return .went (shell.settle (if status = 0 then 1 else 0))
  | .choice yes no tested =>
    if status = 0 then return run shell yes tested
    else
      match no with
      | .empty => return .went (shell.settle 0)
      | no => return run shell no tested
  | .test isUntil test body tested last =>
    if (status == 0) != isUntil then
      return run (shell.push (.body isUntil test body tested)) body tested
    else return .went (leaveLoop (shell.settle last))
  | .body isUntil test body tested => return nextTest shell isUntil test body tested status
  | .each name values body tested =>
    match values with
    | [] => return .went (leaveLoop shell)
    | value :: rest =>
      match shell.memory.set name value with
      | .ok memory =>
        return run ((shell.remember memory).push (.each name rest body tested)) body tested
      | .error (.complaint text) => return .went (shell.giveUp text)
      | .error (.crash signal) => return .ended (.signal signal)
  | .redirected kept =>
    Redirecting.putBack kept
    return .went shell
  | .bindings kept =>
    let memory := kept.foldl (fun m entry => m.putBack entry.1 entry.2) shell.memory
    return .went (shell.remember memory)
  | .call positional place loops kept =>
    return .went (leaveCall shell positional place loops kept)
  | .script kind reader tested hasRun => return readScript shell kind reader tested hasRun
  | .input pieces =>
    match ← Sys.read 0 with
    | .text "" | .fault _ =>
      return .went (shell.runText .whole (String.join pieces.reverse) false)
    | .text piece => return .went (shell.push (.input (piece :: pieces)))
    | .blocked => return .blocked (shell.push (.input pieces))
  | .named name => return .went { shell with commandName := name }
  | .collect process descriptor pieces needed answers =>
    collect shell process descriptor pieces needed answers
  | .await processes last => await shell processes last
  | .awaitJobs processes last => awaitJobs shell processes last
  | .write descriptor text teller => continueWrite shell descriptor text teller
  | .checked =>
    if status ≠ 0 ∧ shell.memory.has 'e' then return .went { shell with mode := .leap .fromShell }
    else return .went shell
  | .trapped status => return .went (shell.settle status)
  | .readLine raw names text => continueLine shell raw names text
  | .guard loops => return .went { shell with loops }

/-- Leaves the frame on top, which has been taken off, by a jump. -/
def leapOver (shell : Shell) (leap : Leap) (frame : Frame) : Act (Turn Shell) := do
  let settled : Turn Shell := .went { shell with mode := .settled }
  match leap, frame with
  | _, .redirected kept =>
    Redirecting.putBack kept
    return .went shell
  | _, .bindings kept =>
    let memory := kept.foldl (fun m entry => m.putBack entry.1 entry.2) shell.memory
    return .went (shell.remember memory)
  | _, .named name => return .went { shell with commandName := name }
  | .leaveLoop depth, .test .. | .leaveLoop depth, .body .. | .leaveLoop depth, .each .. =>
    let shell := leaveLoop shell
    return .went { shell with
      mode := if depth ≤ 1 then .settled else .leap (.leaveLoop (depth - 1)) }
  | .nextRound depth, .test isUntil test body tested last =>
    if depth ≤ 1 then return nextTest shell isUntil test body tested last
    else return .went { leaveLoop shell with mode := .leap (.nextRound (depth - 1)) }
  | .nextRound depth, .body isUntil test body tested =>
    if depth ≤ 1 then return nextTest shell isUntil test body tested shell.memory.status
    else return .went { leaveLoop shell with mode := .leap (.nextRound (depth - 1)) }
  | .nextRound depth, .each name values body tested =>
    if depth ≤ 1 then
      return .went ({ shell with mode := .settled }.push (.each name values body tested))
    else return .went { leaveLoop shell with mode := .leap (.nextRound (depth - 1)) }
  | .fromCall, .call positional place loops kept =>
    return .went { leaveCall shell positional place loops kept with mode := .settled }
  | .fromCall, .script .included .. => return settled
  | _, .call positional place loops kept =>
    return .went { leaveCall shell positional place loops kept with mode := .settled }
  | _, _ => return .went shell

/-- The frame on top waits for something of a command that has not ended yet. -/
def isWithinCommand : List Frame → Bool
  | .collect .. :: _ | .await .. :: _ | .awaitJobs .. :: _ | .write .. :: _ | .readLine .. :: _
  | .input .. :: _ => true
  | _ => false

/-- Takes a caught signal whose trap is to be run. -/
def takeSignal (shell : Shell) : Act (Option String) := do
  let kernel ← get
  if isWithinCommand shell.frames then return none
  else
    match kernel.self.signals.pending.getLast? with
    | none => return none
    | some signal =>
      set { kernel with self.signals.pending := kernel.self.signals.pending.dropLast }
      return (shell.traps.get? signal).filter (· != "")

/-- One step of a shell. -/
def step (shell : Shell) : Act (Turn Shell) := do
  match shell.mode with
  | .run command tested answers => begin shell command tested answers
  | .assign prepared tested answers => runPrepared shell prepared tested answers
  | .leap .fromShell => return .went shell.abandon
  | .leap leap =>
    match shell.frames with
    | [] => return .went { shell with mode := .settled }
    | frame :: rest => leapOver { shell with frames := rest } leap frame
  | .settled =>
    match ← takeSignal shell with
    | some action =>
      let status := shell.memory.status
      return .went ((shell.push (.trapped status)).runText .evaluated action false)
    | none =>
      match shell.frames with
      | frame :: rest => resume { shell with frames := rest } frame
      | [] =>
        match (shell.traps.get? 0).filter (· != "") with
        | some action =>
          let status := shell.memory.status
          let shell := { shell with traps := shell.traps.erase 0, commandName := none }
          return .went ((shell.push (.trapped status)).runText .evaluated action false)
        | none => return .ended (.exit shell.memory.status)

end Shell

end ArtifactLens.Shell
