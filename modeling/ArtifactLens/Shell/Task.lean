import ArtifactLens.Shell.Redirection

/-!
# Tasks

What a process runs is a shell or a job. A shell starts processes: subshells, the members of
pipelines, and programs, which begin as the job of turning into the program.
-/

namespace ArtifactLens.Shell

/-- What a process runs. -/
inductive Task where
  | shell (shell : Shell)
  | job (job : Job)

/-- Requests of a process of the machine. -/
abbrev Act := Sys Task

/-- What became of a process in its turn. -/
inductive Turn (α : Type) where
  | went (next : α)
  /-- Nothing can be done yet. -/
  | blocked (next : α)
  | ended (ending : Ending)
  | became (job : Job)

namespace Shell

/-- The shell as a fork of it starts: with nothing to do, and with no traps but those that ignore
signals. -/
def asFork (shell : Shell) : Shell :=
  { shell with
    frames := [], jobs := [], isFork := true
    traps := ⟨shell.traps.entries.filter fun entry => entry.2 == ""⟩ }

/-- Starts a process with changed descriptors. -/
def startTask (task : Task) (descriptors : List (Nat × Nat)) (background : Bool := false) :
    Act Nat := do
  let number ← Sys.fork task
  Sys.alter number fun process =>
    let own := process.descriptors.filter fun entry =>
      entry.1 < Redirecting.outOfReach && !descriptors.any (·.1 == entry.1)
    { process with
      descriptors := descriptors ++ own
      signals.ignored := if background then [2, 3] ++ process.signals.ignored
        else process.signals.ignored }
  return number

/-- Starts a process that runs a command. -/
def startFork (shell : Shell) (command : Command) (tested : Bool)
    (descriptors : List (Nat × Nat)) (background : Bool := false) : Act Nat :=
  startTask (.shell { shell.asFork with mode := .run command tested [] }) descriptors background

/-- The open file that holds nothing. -/
def emptyInput : Act Nat := Sys.enter { channel := .null }

/-- Starts the members of a pipeline, from the one whose input is given on; `done` holds those that
were started, the last first. -/
def startMembers (shell : Shell) (tested background : Bool) (input : Option Nat) (done : List Nat) :
    List Command → Act (List Nat)
  | [] => return done
  | command :: rest => do
    let first := done.isEmpty
    let input ← if background ∧ first then do pure (some (← emptyInput)) else pure input
    let source := match input with
      | some number => [(0, number)]
      | none => []
    if rest.isEmpty then
      let number ← startFork shell command tested source background
      return number :: done
    else
      let (reader, writer) ← Sys.pipe
      let number ← startFork shell command tested ((1, writer) :: source) background
      startMembers shell tested background (some reader) (number :: done) rest

/-- The least number that a new job can have, from a given one on: one that no job has, or one whose
job has ended and was waited for. -/
def jobNumber (jobs : List BackgroundJob) (number : Nat) : (measure : Nat) → Nat
  | 0 => number
  | measure + 1 =>
    match jobs.find? (·.number == number) with
    | none => number
    | some job =>
      if job.wasAwaited && job.ending.isSome then number else jobNumber jobs (number + 1) measure

/-- Forgets the job whose number a process that is started now takes. -/
def forgetJob (shell : Shell) : Shell :=
  let number := jobNumber shell.jobs 1 (shell.jobs.length + 1)
  { shell with jobs := shell.jobs.filter (·.number != number) }

/-- Notes processes that were started in the background. -/
def noteJob (shell : Shell) (processes : List Nat) : Shell :=
  let number := jobNumber shell.jobs 1 (shell.jobs.length + 1)
  { shell with
    jobs := shell.jobs.filter (·.number != number) ++ [{ number, processes }]
    memory.background := processes.getLast? }

/-- Nothing that remains to be done can be noticed from outside. -/
def isTail (shell : Shell) : Bool :=
  shell.isFork && shell.traps.entries.all (fun entry => entry.2 == "") &&
    shell.frames.all fun frame =>
      match frame with
      | .checked | .named _ | .redirected _ | .bindings _ => true
      | _ => false

/-- Starts the output of a command to be collected. -/
def startSubstitution (shell : Shell) (memory : Memory) (body : Command) (needed : Needed)
    (answers : List String) : Act (Turn Shell) := do
  let shell := shell.forgetJob
  let (reader, writer) ← Sys.pipe
  let number ← startFork (shell.remember memory) body false [(1, writer)]
  let hidden := Redirecting.outOfReach + (← Sys.fresh)
  Sys.assign hidden reader
  return .went ({ shell with mode := .settled }.push
    (.collect number hidden [] needed answers))

/-- Ends the process with a signal of its own. -/
def crash (shell : Shell) (signal : Nat) : Act (Turn Shell) := do
  let own := (← get).self.number
  Sys.signal (fun process => process.number == own) signal
  return .went shell

/-- Expands words of a command and goes on with the result. -/
def expanding {α : Type} (shell : Shell) (needed : Needed) (answers : List String) (action : Context → Expand α)
    (next : α → Memory → Act (Turn Shell)) : Act (Turn Shell) := do
  let kernel ← get
  let context : Context :=
    { disk := kernel.disk, directory := kernel.self.directory, fields := false }
  match (action context).run ⟨shell.memory, answers⟩ with
  | .ok (value, progress) => next value progress.memory
  | .error (.fault (.complaint text) memory) => return .went ((shell.remember memory).giveUp text)
  | .error (.fault (.crash signal) _) => crash shell signal
  | .error (.substitution body memory) =>
    startSubstitution shell memory body needed answers

/-- Carries out redirections for a command and goes on; if one cannot be done, that is told and
`failed` goes on. -/
def redirecting (shell : Shell) (targets : List Target)
    (next : Shell → Kept → Act (Turn Shell)) (failed : Shell → Act (Turn Shell)) :
    Act (Turn Shell) := do
  if targets.isEmpty then next shell []
  else
    let (kept, complaint) ← Redirecting.applyAll (shell.memory.has 'C') [] targets
    match complaint with
    | none => next (shell.push (.redirected kept)) kept
    | some complaint =>
      let _ ← Sys.write 2 (shell.message complaint)
      Redirecting.putBack kept
      failed shell

end Shell

end ArtifactLens.Shell
