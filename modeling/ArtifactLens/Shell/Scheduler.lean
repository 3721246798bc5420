import ArtifactLens.Shell.Startup

/-!
# Running processes by turns

The machine gives every process its turns, one process after another; when none of them can go on,
time passes up to the next moment that one waits for. Every step takes a microsecond, so that
time passes also for processes that never rest.

A run is over when its first process has ended and no process is left that could still write to
the output of the machine.
-/

namespace ArtifactLens.Shell

/-- The programs of a machine by name. -/
abbrev Programs := String → Option Utility

namespace Scheduler

/-- The program that the first line of a script names, with all that follows its name as one word. -/
def interpreterOf (line : String) : List String :=
  let isBlank (c : Char) : Bool := c == ' ' || c == '\t'
  let text := (line.toList.dropWhile isBlank).reverse.dropWhile isBlank |>.reverse
  let name := text.takeWhile fun c => !isBlank c
  let rest := (text.drop name.length).dropWhile isBlank
  if name.isEmpty then []
  else String.ofList name :: (if rest.isEmpty then [] else [String.ofList rest])

/-- The task of a program, found at a path or by the first of its words. -/
def load (programs : Programs) (path : String) (words : List String) (environment : Environment) :
    (measure : Nat) → Act (Except SystemFault Task)
  | 0 => return .error .tooManyLinks
  | measure + 1 => do
    let kernel ← get
    let here := kernel.self.directory
    let name := words.headD ""
    let directories := ((environment.find? (·.1 == "PATH")).map (·.2)).getD "/bin:/usr/bin"
    let path? := if path = "" then Names.search? kernel.disk here directories name else some path
    match path? with
    | none =>
      return .error (if name = "" then .missing
        else Names.searchFault kernel.disk here directories name)
    | some path =>
      match kernel.disk.inspect here path with
      | .error fault => return .error fault
      | .ok (_, { body := .program program, mode, .. }) =>
        if mode &&& 0o111 = 0 then return .error .denied
        else match programs program with
        | some utility => return .ok (.job (utility ⟨name, words.drop 1, environment⟩))
        | none =>
          let self := kernel.self
          return .ok (.shell (Startup.start kernel.disk here environment self.number self.parent words))
      | .ok (_, { body := .octets content, mode, .. }) =>
        if mode &&& 0o111 = 0 then return .error .denied
        else
          let firstLine := (content.takeWhile (· != '\n')).toString
          match if content.startsWith "#!" then interpreterOf (firstLine.drop 2).toString else [] with
          | [] => load programs "/bin/sh" (["/bin/sh", path] ++ words.drop 1) environment measure
          | program :: options =>
            load programs program (program :: options ++ path :: words.drop 1) environment measure
      | .ok _ => return .error .denied

/-- Goes on when a span of time has passed since the first turn. -/
def pausing (duration : Nat) (again : Job) (next : Job) : Act (Turn Job) := do
  let kernel ← get
  match kernel.self.wake with
  | none =>
    Sys.sleepUntil (kernel.clock + duration)
    return .blocked again
  | some moment =>
    if kernel.clock < moment then return .blocked again
    else
      set { kernel with self.wake := none }
      return .went next

/-- The least descriptor that leads nowhere, from a given one on. -/
def leastFree (descriptors : List (Nat × Nat)) (start : Nat) : Nat :=
  ((List.range (descriptors.length + 1)).map (· + start)).find? (fun descriptor =>
    !descriptors.any (·.1 == descriptor)) |>.getD start

/-- One step of a job that is no change of program. -/
def stepJob (job : Job) : Act (Turn Job) := do
  match job with
  | .exit status => return .ended (.exit status)
  | .write descriptor text next =>
    match ← Sys.write descriptor text with
    | .done => return .went (next none)
    | .remaining rest =>
      let later : Job := .write descriptor rest next
      return if rest.length = text.length then .blocked later else .went later
    | .fault fault => return .went (next (some fault))
  | .gather descriptor enough done next =>
    if enough done then return .went (next (.ok done))
    else
      match ← Sys.read descriptor with
      | .text "" => return .went (next (.ok done))
      | .text text => return .went (.gather descriptor enough (done ++ text) next)
      | .blocked => return .blocked job
      | .fault fault => return .went (next (.error fault))
  | .read descriptor count next =>
    match ← Sys.read descriptor (.octets count) with
    | .text text => return .went (next (.ok text))
    | .blocked => return .blocked job
    | .fault fault => return .went (next (.error fault))
  | .skip descriptor distance next => return .went (next (← Sys.skip descriptor distance))
  | .copy source targets next =>
    match ← Sys.read source with
    | .text "" => return .went (next none)
    | .text text =>
      return .went <| targets.foldr (fun target rest =>
        .write target text fun fault =>
          match fault with
          | none => rest
          | some fault => next (some fault)) job
    | .blocked => return .blocked job
    | .fault fault => return .went (next (some fault))
  | .forever descriptor text next =>
    return .went (.write descriptor text fun fault =>
      match fault with
      | none => job
      | some fault => next fault)
  | .pause duration next => pausing duration job next
  | .disk act =>
    let kernel ← get
    let (disk, next) := act kernel.disk kernel.standpoint
    set { kernel with disk }
    return .went next
  | .open path manner next =>
    match ← Sys.openPath path manner with
    | .error fault => return .went (next (.error fault))
    | .ok number =>
      let descriptor := leastFree (← get).self.descriptors 0
      Sys.assign descriptor number
      return .went (next (.ok descriptor))
  | .close descriptor next =>
    Sys.close descriptor
    return .went next
  | .pipe next =>
    let (reader, writer) ← Sys.pipe
    let readerEnd := leastFree (← get).self.descriptors 0
    Sys.assign readerEnd reader
    let writerEnd := leastFree (← get).self.descriptors 0
    Sys.assign writerEnd writer
    return .went (next readerEnd writerEnd)
  | .direct descriptor source next =>
    match ← Sys.open? source with
    | some (number, _) =>
      Sys.assign descriptor number
      modify Kernel.sweep
    | none => pure ()
    return .went next
  | .spawn child ownGroup next =>
    let number ← Shell.startTask (.job child) []
    if ownGroup then Sys.alter number fun process => { process with group := number }
    return .went (next number)
  | .await process duration next =>
    match ← Sys.ending? process with
    | some ending =>
      Sys.bury process
      modify fun kernel => { kernel with self.wake := none }
      return .went (next (some ending))
    | none =>
      match duration with
      | none => return .blocked job
      | some duration => pausing duration job (next none)
  | .awaitAny processes waits next =>
    let endings ← processes.mapM Sys.ending?
    match (processes.zip endings).find? (·.2.isSome) with
    | some (process, some ending) =>
      Sys.bury process
      return .went (next (some (process, ending)))
    | _ => return if waits ∧ !processes.isEmpty then .blocked job else .went (next none)
  | .signal process number wholeGroup next =>
    Sys.signal (fun other => if wholeGroup then other.group == process
      else other.number == process) number
    return .went next
  | .regard change next =>
    let kernel ← get
    set { kernel with self := Kernel.Process.regard kernel.self change }
    return .went (next (change kernel.self.signals))
  | .look descriptor next => return .went (next ((← Sys.open? descriptor).map (·.2)))
  | .enter path next =>
    let kernel ← get
    match kernel.disk.inspect kernel.self.directory path with
    | .ok (number, { body := .directory .., .. }) =>
      set { kernel with self.directory := number }
      return .went (next none)
    | .ok _ => return .went (next (some .notDirectory))
    | .error fault => return .went (next (some fault))
  | .yield more next =>
    let kernel ← get
    let niceness := max (-20) (min 19 (kernel.self.niceness + more))
    set { kernel with self.niceness := niceness }
    return .went (next niceness)
  | .own next => return .went (next (← get).self.number)
  | .become .. => return .went job

/-- One step of a task. -/
def stepTask (programs : Programs) (task : Task) : Act (Turn Task) := do
  let lift {α : Type} (wrap : α → Task) (turn : Turn α) : Turn Task :=
    match turn with
    | .went next => .went (wrap next)
    | .blocked next => .blocked (wrap next)
    | .ended ending => .ended ending
    | .became job => .went (.job job)
  match task with
  | .shell shell => return lift .shell (← shell.step)
  | .job (.become path words environment failed) =>
    match ← load programs path words environment 8 with
    | .ok task =>
      modify fun kernel => { kernel with
        self.descriptors := kernel.self.descriptors.filter (·.1 < Redirecting.outOfReach)
        self.signals := { kernel.self.signals with caught := [], pending := [] } }
      modify Kernel.sweep
      return .went task
    | .error fault => return .went (.job (failed fault))
  | .job job => return lift .job (← stepJob job)

/-- A turn of the process in turn: up to a number of steps. Answers the number of steps taken. -/
def turn (programs : Programs) (task : Task) (taken : Nat) : (steps : Nat) → Act (Task × Nat)
  | 0 => return (task, taken)
  | steps + 1 => do
    match ← stepTask programs task with
    | .blocked task => return (task, taken)
    | .ended ending =>
      Sys.finish ending
      return (.job (.exit 0), taken + 1)
    | .became job => return (.job job, taken + 1)
    | .went task =>
      let self := (← get).self
      if self.ending.isSome ∨ self.isStopped then return (task, taken + 1)
      else turn programs task (taken + 1) steps

/-- How many steps a turn has. -/
def stepsOfTurn : Nat := 1000

/-- Gives the process in turn its turn; answers whether it could do anything. -/
def takeTurn (programs : Programs) : Act Bool := do
  let self := (← get).self
  if self.ending.isSome ∨ self.isStopped then return false
  else
    let (task, taken) ← turn programs self.task 0 stepsOfTurn
    modify fun kernel => { kernel with self.task := task, clock := kernel.clock + 1000 * taken }
    return taken > 0

/-- A process that has ended and that nobody will ask for. -/
def isForgotten (kernel : Kernel Task) (main : Nat) (process : Process Task) : Bool :=
  process.ending.isSome && process.number != main &&
    !kernel.processes.any fun parent => parent.number == process.parent && parent.ending.isNone

/-- Passes the turn to the next process. -/
def rotate (kernel : Kernel Task) (main : Nat) : Kernel Task :=
  match kernel.others.filter fun process => !isForgotten kernel main process with
  | [] => { kernel with others := [] }
  | next :: rest =>
    if isForgotten kernel main kernel.self then { kernel with self := next, others := rest }
    else { kernel with self := next, others := rest ++ [kernel.self] }

/-- The next moment that a process waits for. -/
def nextWake? (kernel : Kernel Task) : Option Nat :=
  (kernel.processes.filterMap fun process =>
    if process.ending.isSome ∨ process.isStopped then none
    else process.wake.filter (kernel.clock < ·)).min?

/-- How the first process ended. -/
def mainEnding? (kernel : Kernel Task) (main : Nat) : Option Ending :=
  (kernel.processes.find? (·.number == main)).bind (·.ending)

/-- How a run is over: the first process has ended and nobody can write to the outputs. -/
def outcome? (kernel : Kernel Task) (main : Nat) : Option Ending :=
  if kernel.isReached (.sink false) ∨ kernel.isReached (.sink true) then none
  else mainEnding? kernel main

/-- Runs the machine until the run is over, or for as long as the limit allows. `idle` counts the
processes that could do nothing, one after another. There is no ending if time has run out. -/
def run (programs : Programs) (limit : Option Nat) (main : Nat) (kernel : Kernel Task)
    (idle : Nat) : (fuel : Nat) → Kernel Task × Option Ending
  | 0 => (kernel, none)
  | fuel + 1 =>
    if limit.any (· ≤ kernel.clock) then (kernel, none)
    else
      let (went, kernel) := (takeTurn programs).run kernel
      match outcome? kernel main with
      | some ending => (kernel, some ending)
      | none =>
        if went then run programs limit main (rotate kernel main) 0 fuel
        else if idle < kernel.others.length then
          run programs limit main (rotate kernel main) (idle + 1) fuel
        else
          match nextWake? kernel with
          | none => (kernel, none)
          | some moment =>
            if limit.any (· ≤ moment) then (kernel, none)
            else run programs limit main (rotate { kernel with clock := moment } main) 0 fuel

/-- The number of turns that are given in all. -/
def turns : Nat := 20000000

/-- The number of the first process. -/
def firstProcess : Nat := 1000

/-- A machine whose first process is about to run a job in a directory, with an input. -/
def machine (disk : Disk) (directory : FileNumber) (input : Option String) (job : Job) : Kernel Task :=
  let (source, pipes) : OpenFile × List (Nat × String) := match input with
    | some text => ({ channel := .reader 4, canWrite := false }, [(4, text)])
    | none => ({ channel := .null, canWrite := false }, [])
  { disk, clock := 0, fresh := firstProcess + 1
    openFiles :=
      [(1, source), (2, { channel := .sink false, canRead := false }),
        (3, { channel := .sink true, canRead := false })]
    pipes, output := [], complaints := []
    self :=
      { number := firstProcess, parent := 1, group := firstProcess, task := .job job
        descriptors := [(0, 1), (1, 2), (2, 3)], directory }
    others := [] }

end Scheduler

end ArtifactLens.Shell
