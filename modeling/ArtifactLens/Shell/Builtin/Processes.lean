import ArtifactLens.Shell.Builtin.Basic

/-!
# Processes and signals

The commands `kill`, `trap`, `jobs` and `times`.
-/

namespace ArtifactLens.Shell

namespace Processes

variable {τ : Type}

/-- The names of all signals, in order from 1. -/
def signalNames : List String :=
  (List.range 64).map fun index =>
    let number := index + 1
    match Signal.name? number with
    | some name => name
    | none =>
      if number < 34 then toString number
      else if number ≤ 49 then "RTMIN+" ++ toString (number - 34)
      else "RTMAX-" ++ toString (64 - number)

/-- The number of the signal that a text names, or of the end of the shell if `least` is zero. -/
def signal? (least : Nat) (text : String) : Option Nat :=
  if text ≠ "" ∧ text.toList.all Char.isDigit then
    text.toNat?.filter (· < 65)
  else
    let wanted := text.map Char.toUpper
    if least = 0 ∧ wanted = "EXIT" then some 0
    else (signalNames.findIdx? (· == wanted)).map (· + 1)

/-- The complaint about how `kill` is used. -/
def usage : String :=
  "Usage: kill [-s sigspec | -signum | -sigspec] [pid | job]... or\nkill -l [exitstatus]"

/-- Lists signals, or names the one that a status tells of. -/
def listSignals (shell : Shell) : List String → Reply
  | [] => { shell, output := "0\n" ++ String.join (signalNames.map (· ++ "\n")) }
  | text :: _ =>
    match Argument.number? text with
    | none => .refuse shell (Argument.badNumber text)
    | some status =>
      let number := if status > 128 then status - 128 else status
      match if number = 0 then none else signalNames[number - 1]? with
      | some name => { shell, output := name ++ "\n" }
      | none => .refuse shell ("invalid signal number or exit status: " ++ text)

/-- The job that a name starting with `%` stands for; no name stands for the current job, the one that
was started last. Jobs are known by their numbers alone, as none of them keeps the text of its
command. -/
def jobFor (jobs : List BackgroundJob) (name? : Option String) : Except String BackgroundJob :=
  let recent := jobs.reverse
  let find (complaint : String) (job? : Option BackgroundJob) : Except String BackgroundJob :=
    match job? with
    | some job => .ok job
    | none => .error complaint
  match name? with
  | none | some "%" | some "%+" | some "%%" => find "No current job" recent.head?
  | some "%-" => find "No previous job" recent[1]?
  | some name =>
    let missing := "No such job: " ++ name
    let number := (name.drop 1).toString
    if !name.startsWith "%" then .error missing
    else if number = "?" then
      if recent.length > 1 then .error (name ++ ": ambiguous") else find missing recent.head?
    else find missing (recent.find? fun job => number.toNat? == some job.number)

/-- Sends a signal to the processes that texts name. -/
def send (shell : Shell) (number : Nat) (reply : Reply) : List String → Sys τ Reply
  | [] => return reply
  | text :: rest => do
    let isGroup := text.startsWith "-"
    match Argument.number? (if isGroup then (text.drop 1).toString else text) with
    | none =>
      match if text.startsWith "%" then jobFor shell.jobs (some text)
          else .error (Argument.badNumber text) with
      | .ok _ =>
        -- Jobs are no groups of their own.
        send shell number { reply with
          status := 1, complaints := reply.complaints ++ shell.message "No such process\n" } rest
      | .error complaint =>
        return { reply with status := 2, fault := some (.complaint complaint) }
    | some target =>
      let kernel ← get
      let fits (process : Process τ) : Bool :=
        if target = 0 then process.group == kernel.self.group
        else if isGroup then process.group == target
        else process.number == target
      if kernel.processes.any fits then
        Sys.signal fits number
        send shell number reply rest
      else
        send shell number { reply with
          status := 1, complaints := reply.complaints ++ shell.message "No such process\n" } rest

/-- The command `kill`. -/
def kill (shell : Shell) (args : List String) : Sys τ Reply := do
  let finish (listed : Bool) (number : Option Nat) (targets : List String) : Sys τ Reply := do
    if listed then
      return if number.isSome then .refuse shell usage else listSignals shell targets
    else if targets.isEmpty then return .refuse shell usage
    else send shell (number.getD 15) { shell } targets
  match args with
  | [] => return .refuse shell usage
  | first :: rest =>
    if first.startsWith "-" ∧ first.length > 1 then
      match signal? 1 (first.drop 1).toString with
      | some number => finish false (some number) rest
      | none =>
        match Argument.options "ls:" args with
        | .error fault => return .refuse shell (Argument.optionComplaint fault)
        | .ok (options, targets) =>
          match (options.find? (·.1 == 's')).map (·.2) with
          | some name =>
            match signal? 1 name with
            | some number => finish (options.any (·.1 == 'l')) (some number) targets
            | none => return .refuse shell ("invalid signal number or name: " ++ name)
          | none => finish (options.any (·.1 == 'l')) none targets
    else finish false none args

/-- Lets the process take a signal as a new trap wants it, if there is one; `old` is the trap that it
replaces. A signal that had no effect when the shell started never gets one. -/
def heed (number : Nat) (old new : Option String) : Sys τ Unit :=
  modify fun kernel =>
    let signals := kernel.self.signals
    let isDeaf := signals.ignored.contains number && old != some ""
    let others := signals.ignored.filter (· != number)
    let uncaught := signals.caught.filter (· != number)
    let signals :=
      if number = 0 ∨ isDeaf then signals
      else
        match new with
        | none => { signals with ignored := others, caught := uncaught }
        | some "" => { signals with ignored := number :: others, caught := uncaught }
        | some _ => { signals with ignored := others, caught := number :: uncaught }
    { kernel with self.signals := signals }

/-- Sets or clears traps. -/
def setTraps (shell : Shell) (action : Option String) : List String → Sys τ Reply
  | [] => return { shell }
  | text :: rest => do
    match signal? 0 text with
    | none => return { shell, status := 1, complaints := "trap: " ++ text ++ ": bad trap\n" }
    | some number =>
      heed number (shell.traps.get? number) action
      let traps := match action with
        | some action => shell.traps.insert number action
        | none => shell.traps.erase number
      setTraps { shell with traps } action rest

/-- The command `trap`. -/
def trap (shell : Shell) (args : List String) : Sys τ Reply := do
  match Argument.options "" args with
  | .error fault => return .refuse shell (Argument.optionComplaint fault)
  | .ok (_, []) =>
    let entries := shell.traps.entries.mergeSort fun a b => a.1 ≤ b.1
    let line (entry : Nat × String) : String :=
      let name := if entry.1 = 0 then "EXIT" else (signalNames[entry.1 - 1]?).getD ""
      "trap -- " ++ Argument.quote entry.2 ++ " " ++ name ++ "\n"
    return { shell, output := String.join (entries.map line) }
  | .ok (_, [only]) => setTraps shell none [only]
  | .ok (_, action :: conditions) =>
    if (signal? 0 action).isSome then setTraps shell none (action :: conditions)
    else setTraps shell (if action = "-" then none else some action) conditions

/-- Notes the endings of background processes, and gives the jobs that have ended. -/
def survey (jobs : List BackgroundJob) : Sys τ (List BackgroundJob) := do
  let kernel ← get
  return jobs.map fun job =>
    match job.ending with
    | some _ => job
    | none =>
      let live := job.processes.any fun number => kernel.others.any fun process =>
        process.number == number && process.ending.isNone
      if live then job
      else
        let last := job.processes.getLastD 0
        let ending := (kernel.others.find? fun process => process.number == last).bind (·.ending)
        { job with ending := some (ending.getD (.exit 0)) }

/-- The state of a job in words. -/
def stateOf : Option Ending → String
  | none => "Running"
  | some (.exit 0) => "Done"
  | some (.exit status) => "Done(" ++ toString status ++ ")"
  | some (.signal number) => Signal.description number

/-- How jobs are listed. -/
inductive JobListing where
  | plain
  /-- With the numbers of all processes. -/
  | numbered
  /-- The number of the first process alone. -/
  | first

/-- A text filled up with blanks to the width of the column of states. -/
def toStateColumn (text : String) : String :=
  text ++ String.ofList (List.replicate (max 1 (33 - text.length)) ' ')

/-- The line of a job, `place` of which tells how many jobs were started after it. -/
def jobLine (listing : JobListing) (place : Nat) (job : BackgroundJob) : String :=
  let sign := match place with
    | 0 => "+"
    | 1 => "-"
    | _ => " "
  let head := "[" ++ toString job.number ++ "] " ++ sign ++ " "
  let others := job.processes.drop 1
  match listing with
  | .first => toString (job.processes.headD 0) ++ "\n"
  | .plain =>
    toStateColumn (head ++ stateOf job.ending) ++ String.join (others.map fun _ => " | ") ++ "\n"
  | .numbered =>
    let indent := String.ofList (List.replicate (head.length) ' ')
    toStateColumn (head ++ toString (job.processes.headD 0) ++ " " ++ stateOf job.ending) ++
      String.join (others.map fun number =>
        " |\n" ++ toStateColumn (indent ++ toString number ++ " ")) ++ "\n"

/-- Lists jobs; one that has ended is forgotten once it is listed, and so no longer the current
one. -/
def listJobs (listing : JobListing) (jobs : List BackgroundJob) (done : String) :
    List BackgroundJob → List BackgroundJob × String
  | [] => (jobs, done)
  | job :: rest =>
    let place := (jobs.reverse.findIdx? (·.number == job.number)).getD 0
    let done := done ++ jobLine listing place job
    let jobs := match listing, job.ending with
      | .first, _ | _, none => jobs
      | _, some _ => jobs.filter (·.number != job.number)
    listJobs listing jobs done rest

/-- Lists the jobs that names stand for, up to the first that stands for none. -/
def listNamed (listing : JobListing) (reply : Reply) : List String → Reply
  | [] => reply
  | name :: rest =>
    match jobFor reply.shell.jobs (some name) with
    | .error complaint => { reply with status := 2, fault := some (.complaint complaint) }
    | .ok job =>
      let (jobs, output) := listJobs listing reply.shell.jobs reply.output [job]
      listNamed listing { reply with shell := { reply.shell with jobs }, output } rest

/-- The command `jobs`. -/
def jobs (shell : Shell) (args : List String) : Sys τ Reply := do
  match Argument.options "lp" args with
  | .error fault => return .refuse shell (Argument.optionComplaint fault)
  | .ok (options, names) =>
    let listing : JobListing := match options.getLast? with
      | none => .plain
      | some ('l', _) => .numbered
      | some _ => .first
    if names.isEmpty then
      let jobs ← survey shell.jobs
      let (jobs, output) := listJobs listing jobs "" jobs.reverse
      return { shell := { shell with jobs }, output }
    else return listNamed listing { shell } names

/-- The commands `fg` and `bg`: no job is under the control of the shell. -/
def resumeJob (shell : Shell) (args : List String) : Reply :=
  match Argument.options "" args with
  | .error fault => .refuse shell (Argument.optionComplaint fault)
  | .ok (_, names) =>
    match jobFor shell.jobs names.head? with
    | .error complaint => .refuse shell complaint
    | .ok _ => .refuse shell
        ("job " ++ names.headD "(null)" ++ " not created under job control")

end Processes

end ArtifactLens.Shell
