import ArtifactLens.Shell.Disk.Bare

/-!
# Processes

A machine on which processes run by turns. Processes share open files, through descriptors of their
own; they talk through pipes, which hold a bounded text, and end by themselves or by a signal. Time
stands in nanoseconds since the start.

What the process in turn asks for is an operation on the whole kernel. A request that cannot be
met yet answers `blocked` and is repeated in a later turn. The kernel knows nothing of what a
process runs: that is the type `τ` of its task.
-/

namespace ArtifactLens.Shell

/-- How a process ended. -/
inductive Ending where
  | exit (status : Nat)
  | signal (number : Nat)
  deriving DecidableEq, Repr

/-- The status that a shell gives to an ending. -/
def Ending.status : Ending → Nat
  | .exit status => status % 256
  | .signal number => 128 + number

/-- What an open file leads to. -/
inductive Channel where
  | null
  | zero
  | full
  /-- The output of the whole machine, or its output of complaints. -/
  | sink (forComplaints : Bool)
  | reader (pipe : Nat)
  | writer (pipe : Nat)
  | file (number : FileNumber)
  | directory (number : FileNumber)
  deriving DecidableEq, Repr

/-- An open file. Descriptors that were duplicated share one, and with it the offset. -/
structure OpenFile where
  channel : Channel
  offset : Nat := 0
  appends : Bool := false
  canRead : Bool := true
  canWrite : Bool := true

/-- Signals that a request or another process may send. -/
structure Signals where
  /-- Signals that have no effect. -/
  ignored : List Nat := []
  /-- Signals that the process handles itself. -/
  caught : List Nat := []
  /-- Caught signals that came in, the newest first. -/
  pending : List Nat := []
  /-- Signals that have to wait. -/
  blocked : List Nat := []
  /-- The signals that are waiting. -/
  held : List Nat := []

/-- The most of a thing that a process may use: what holds now, and what may be set. Without a number
there is no limit. -/
structure Limit where
  soft : Option Nat
  hard : Option Nat

/-- A process with a task. -/
structure Process (τ : Type) where
  number : Nat
  parent : Nat
  /-- The leader of the group that the process belongs to. -/
  group : Nat
  task : τ
  /-- Open files by descriptor. -/
  descriptors : List (Nat × Nat)
  directory : FileNumber
  /-- Permissions that new files lack. -/
  mask : Nat := 0o022
  /-- How much the process gives way to others. -/
  niceness : Int := 0
  /-- The limits that were set, by the letters that stand for them. -/
  limits : List (Char × Limit) := []
  signals : Signals := {}
  isStopped : Bool := false
  /-- When the process goes on, if it waits for a moment. -/
  wake : Option Nat := none
  ending : Option Ending := none

/-- The machine; `self` is the process in turn. -/
structure Kernel (τ : Type) where
  disk : Disk
  clock : Nat
  /-- The number of the next open file, pipe or process. -/
  fresh : Nat
  openFiles : List (Nat × OpenFile)
  pipes : List (Nat × String)
  /-- What was put out, the newest piece first. -/
  output : List String
  complaints : List String
  self : Process τ
  others : List (Process τ)

/-- Requests of the process in turn. -/
abbrev Sys (τ : Type) := StateM (Kernel τ)

/-- The answer to a request to read. -/
inductive Reading where
  /-- What was read; nothing at the end. -/
  | text (text : String)
  | blocked
  | fault (fault : SystemFault)

/-- How much is read at once of what is there. -/
inductive Portion where
  | all
  /-- No more than the rest of a line. -/
  | line
  | octets (count : Nat)

/-- The answer to a request to write. -/
inductive Writing where
  | done
  /-- What is still to be written. -/
  | remaining (text : String)
  | fault (fault : SystemFault)

namespace Signal

/-- The signals by number. -/
def names : List (Nat × String) :=
  [(1, "HUP"), (2, "INT"), (3, "QUIT"), (4, "ILL"), (5, "TRAP"), (6, "ABRT"), (7, "BUS"), (8, "FPE"),
    (9, "KILL"), (10, "USR1"), (11, "SEGV"), (12, "USR2"), (13, "PIPE"), (14, "ALRM"), (15, "TERM"),
    (16, "STKFLT"), (17, "CHLD"), (18, "CONT"), (19, "STOP"), (20, "TSTP"), (21, "TTIN"),
    (22, "TTOU"), (23, "URG"), (24, "XCPU"), (25, "XFSZ"), (26, "VTALRM"), (27, "PROF"),
    (28, "WINCH"), (29, "IO" ), (30, "PWR"), (31, "SYS"), (34, "RTMIN"), (64, "RTMAX")]

/-- The name of a signal. -/
def name? (number : Nat) : Option String :=
  (names.find? fun entry => entry.1 == number).map (·.2)

/-- The number of a signal by its name. -/
def number? (name : String) : Option Nat :=
  (names.find? fun entry => entry.2 == name).map (·.1)

/-- What is told of a process that a signal ended. -/
def description (number : Nat) : String :=
  match number with
  | 1 => "Hangup"
  | 2 => "Interrupt"
  | 3 => "Quit"
  | 4 => "Illegal instruction"
  | 5 => "Trace/breakpoint trap"
  | 6 => "Aborted"
  | 7 => "Bus error"
  | 8 => "Floating point exception"
  | 9 => "Killed"
  | 10 => "User defined signal 1"
  | 11 => "Segmentation fault"
  | 12 => "User defined signal 2"
  | 13 => "Broken pipe"
  | 14 => "Alarm clock"
  | 15 => "Terminated"
  | 16 => "Stack fault"
  | 24 => "CPU time limit exceeded"
  | 25 => "File size limit exceeded"
  | 26 => "Virtual timer expired"
  | 27 => "Profiling timer expired"
  | 29 => "I/O possible"
  | 30 => "Power failure"
  | 31 => "Bad system call"
  | other => "Unknown signal " ++ toString other

/-- The signals that have no effect unless they are caught. -/
def harmless : List Nat := [0, 17, 18, 23, 28]

/-- The signals that stop a process. -/
def stopping : List Nat := [19, 20, 21, 22]

end Signal

namespace Kernel

variable {τ : Type}

/-- How much a pipe holds. -/
def pipeCapacity : Nat := 65536

/-- The moment it is: nanoseconds since the beginning of 1970. -/
def moment (kernel : Kernel τ) : Int := Disk.start + kernel.clock

/-- From where the process in turn acts on the disk. -/
def standpoint (kernel : Kernel τ) : Standpoint :=
  { directory := kernel.self.directory, mask := kernel.self.mask, moment := kernel.moment }

/-- All processes. -/
def processes (kernel : Kernel τ) : List (Process τ) := kernel.self :: kernel.others

/-- An open file of a kernel. -/
def file? (kernel : Kernel τ) (number : Nat) : Option OpenFile :=
  (kernel.openFiles.find? fun entry => entry.1 == number).map (·.2)

/-- Some process has a descriptor for the open file. -/
def isHeld (kernel : Kernel τ) (number : Nat) : Bool :=
  kernel.processes.any fun process => process.descriptors.any fun entry => entry.2 == number

/-- Some process has a descriptor that leads to a channel. -/
def isReached (kernel : Kernel τ) (channel : Channel) : Bool :=
  kernel.openFiles.any fun entry => entry.2.channel == channel && kernel.isHeld entry.1

/-- Forgets open files that no process has. -/
def sweep (kernel : Kernel τ) : Kernel τ :=
  let openFiles := kernel.openFiles.filter fun entry => kernel.isHeld entry.1
  let pipes := kernel.pipes.filter fun pipe => openFiles.any fun entry =>
    entry.2.channel == .reader pipe.1 || entry.2.channel == .writer pipe.1
  { kernel with openFiles, pipes }

/-- Ends a process, whose descriptors are closed. -/
def Process.finish (process : Process τ) (ending : Ending) : Process τ :=
  match process.ending with
  | some _ => process
  | none => { process with ending := some ending, descriptors := [], wake := none }

/-- A signal reaches a process. -/
def Process.receive (process : Process τ) (number : Nat) : Process τ :=
  if process.ending.isSome then process
  else if number = 9 then Process.finish process (.signal 9)
  else if number = 19 then { process with isStopped := true }
  else
    let process := if number = 18 then { process with isStopped := false } else process
    if process.signals.blocked.contains number then
      { process with signals.held := number :: process.signals.held.erase number }
    else if process.signals.ignored.contains number then process
    else if process.signals.caught.contains number then
      { process with signals.pending := number :: process.signals.pending }
    else if Signal.harmless.contains number then process
    else if Signal.stopping.contains number then { process with isStopped := true }
    else Process.finish process (.signal number)

/-- Changes how a process takes signals; those that need not wait any longer come in. -/
def Process.regard (process : Process τ) (change : Signals → Signals) : Process τ :=
  let signals := change process.signals
  let (held, due) := signals.held.partition signals.blocked.contains
  due.foldr (fun number process => Process.receive process number)
    { process with signals := { signals with held } }

/-- Tells the parents of processes that were alive before and have ended since. -/
def tellParents (kernel : Kernel τ) (alive : List Nat) : Kernel τ :=
  let parents := kernel.processes.filterMap fun process =>
    if process.ending.isSome ∧ alive.contains process.number then some process.parent else none
  let tell (process : Process τ) : Process τ :=
    if parents.contains process.number then Process.receive process 17 else process
  { kernel with self := tell kernel.self, others := kernel.others.map tell }

/-- The numbers of the processes that have not ended. -/
def alive (kernel : Kernel τ) : List Nat :=
  (kernel.processes.filter (·.ending.isNone)).map (·.number)

/-- Changes the processes that fit a test. -/
def change (kernel : Kernel τ) (fits : Process τ → Bool) (f : Process τ → Process τ) : Kernel τ :=
  let apply (process : Process τ) : Process τ := if fits process then f process else process
  { kernel with self := apply kernel.self, others := kernel.others.map apply }

end Kernel

namespace Sys

variable {τ : Type}

/-- The open file of a descriptor. -/
def open? (descriptor : Nat) : Sys τ (Option (Nat × OpenFile)) := do
  let kernel ← get
  match kernel.self.descriptors.find? fun entry => entry.1 == descriptor with
  | none => return none
  | some (_, number) => return (kernel.file? number).map fun file => (number, file)

/-- Moves the offset of an open file. -/
def seek (number offset : Nat) : Sys τ Unit :=
  modify fun kernel => { kernel with
    openFiles := kernel.openFiles.map fun entry =>
      if entry.1 == number then (number, { entry.2 with offset }) else entry }

/-- Moves the offset of a descriptor that leads to a file of the disk: whether it does. -/
def skip (descriptor : Nat) (distance : Int) : Sys τ Bool := do
  match ← open? descriptor with
  | some (number, file) =>
    match file.channel with
    | .file _ =>
      seek number ((file.offset : Int) + distance).toNat
      return true
    | _ => return false
  | none => return false

/-- Gives a pipe another content. -/
def refill (pipes : List (Nat × String)) (pipe : Nat) (content : String) : List (Nat × String) :=
  pipes.map fun entry => if entry.1 == pipe then (pipe, content) else entry

/-- What follows so many characters of a text. They are not gone through if each is one byte. -/
def rest (text : String) (passed : Nat) : String.Slice :=
  if text.length = text.utf8ByteSize then
    match text.pos? ⟨passed⟩ with
    | some place => text.sliceFrom place
    | none => "".toSlice
  else text.drop passed

/-- The part of a text that is wanted. -/
def portionOf (portion : Portion) (text : String.Slice) : String :=
  match portion with
  | .all => text.toString
  | .octets count => (text.take count).toString
  | .line =>
    let line := text.takeWhile (· != '\n')
    if line.utf8ByteSize < text.utf8ByteSize then line.toString ++ "\n" else line.toString

/-- Lets the time pass in which octets are moved. -/
def spend (octets : Nat) : Sys τ Unit :=
  modify fun kernel => { kernel with clock := kernel.clock + 10 * octets }

/-- Takes what is there, or no more than a portion of it. -/
def take (descriptor : Nat) (portion : Portion) : Sys τ Reading := do
  match ← open? descriptor with
  | none => return .fault .badDescriptor
  | some (number, file) =>
    if !file.canRead then return .fault .badDescriptor
    else
      match file.channel with
      | .null | .full => return .text ""
      | .zero =>
        let count := match portion with
          | .octets count => count
          | _ => 4096
        return .text (String.ofList (List.replicate count '\x00'))
      | .sink _ | .writer _ => return .fault .badDescriptor
      | .directory _ => return .fault .isDirectory
      | .file node =>
        let content := (((← get).disk.find? node).map (·.content)).getD ""
        let piece := portionOf portion (rest content file.offset)
        seek number (file.offset + piece.length)
        return .text piece
      | .reader pipe =>
        let kernel ← get
        match kernel.pipes.find? fun entry => entry.1 == pipe with
        | none => return .text ""
        | some (_, content) =>
          if content = "" then
            if kernel.isReached (.writer pipe) then return .blocked else return .text ""
          else
            let piece := portionOf portion content.toSlice
            let later := (rest content piece.length).toString
            set { kernel with pipes := refill kernel.pipes pipe later }
            return .text piece

/-- Reads what is there, or no more than a portion of it. -/
def read (descriptor : Nat) (portion : Portion := .all) : Sys τ Reading := do
  let reading ← take descriptor portion
  match reading with
  | .text text => spend text.length
  | _ => pure ()
  return reading

/-- Sends a signal to processes. -/
def signal (fits : Process τ → Bool) (number : Nat) : Sys τ Unit :=
  modify fun kernel =>
    ((kernel.change fits fun p => Kernel.Process.receive p number).tellParents kernel.alive).sweep

/-- Ends the process in turn. -/
def finish (ending : Ending) : Sys τ Unit :=
  modify fun kernel =>
    ({ kernel with self := Kernel.Process.finish kernel.self ending }.tellParents
      kernel.alive).sweep

/-- Puts a text into a content at an offset, which is filled up with zeros if need be. -/
def overwrite (content : String) (offset : Nat) (text : String) : String :=
  let length := content.length
  if offset = length then content ++ text
  else if offset > length then
    content ++ String.ofList (List.replicate (offset - length) '\x00') ++ text
  else
    portionOf (.octets offset) content.toSlice ++ text ++
      (rest content (offset + text.length)).toString

/-- Writes as much of a text as there is room for. -/
def write (descriptor : Nat) (text : String) : Sys τ Writing := do
  if text = "" then return .done
  spend text.length
  match ← open? descriptor with
  | none => return .fault .badDescriptor
  | some (number, file) =>
    if !file.canWrite then return .fault .badDescriptor
    else
      match file.channel with
      | .null | .zero => return .done
      | .full => return .fault .noSpace
      | .reader _ | .directory _ => return .fault .badDescriptor
      | .sink forComplaints =>
        modify fun kernel =>
          if forComplaints then { kernel with complaints := text :: kernel.complaints }
          else { kernel with output := text :: kernel.output }
        return .done
      | .file node =>
        let kernel ← get
        let content := ((kernel.disk.find? node).map (·.content)).getD ""
        let offset := if file.appends then content.length else file.offset
        let content := overwrite content offset text
        set { kernel with disk := kernel.disk.write kernel.moment node content }
        seek number (offset + text.length)
        return .done
      | .writer pipe =>
        let kernel ← get
        if !kernel.isReached (.reader pipe) then
          signal (fun process => process.number == kernel.self.number) 13
          return .fault .brokenPipe
        else
          match kernel.pipes.find? fun entry => entry.1 == pipe with
          | none => return .fault .brokenPipe
          | some (_, content) =>
            let room := Kernel.pipeCapacity - content.length
            let size := text.length
            let (now, later) := if size ≤ room then (text, "")
              else (portionOf (.octets room) text.toSlice, (rest text room).toString)
            set { kernel with pipes := refill kernel.pipes pipe (content ++ now) }
            return if later = "" then .done else .remaining later

/-- Gives a number that was not used before. -/
def fresh : Sys τ Nat :=
  modifyGet fun kernel => (kernel.fresh, { kernel with fresh := kernel.fresh + 1 })

/-- Opens a file that is described, under no descriptor yet. -/
def enter (file : OpenFile) : Sys τ Nat := do
  let number ← fresh
  modify fun kernel => { kernel with openFiles := (number, file) :: kernel.openFiles }
  return number

/-- How a file is opened. -/
structure Manner where
  reads : Bool := false
  writes : Bool := false
  /-- A missing file is made. -/
  creates : Bool := false
  truncates : Bool := false
  appends : Bool := false

/-- Opens a file by its number; the open file is under no descriptor yet. -/
def openFile (node : FileNumber) (file : DiskFile) (manner : Manner) :
    Sys τ (Except SystemFault Nat) := do
  let plain (channel : Channel) : OpenFile :=
    { channel, canRead := manner.reads, canWrite := manner.writes, appends := manner.appends }
  match file.body with
  | .octets _ =>
    if manner.truncates then
      modify fun kernel => { kernel with disk := kernel.disk.write kernel.moment node "" }
    return .ok (← enter (plain (.file node)))
  | .program _ =>
    if manner.writes then return .error .denied else return .ok (← enter (plain (.file node)))
  | .directory .. =>
    if manner.writes || manner.creates then return .error .isDirectory
    else return .ok (← enter (plain (.directory node)))
  | .link _ => return .error .tooManyLinks
  | .device .null => return .ok (← enter (plain .null))
  | .device .zero => return .ok (← enter (plain .zero))
  | .device .full => return .ok (← enter (plain .full))
  | .device (.descriptor n) =>
    match ← open? n with
    | some (number, _) => return .ok number
    | none => return .error .missing

/-- Opens the file at a path; the open file is under no descriptor yet. Only a directory is under a
path that ends in a slash, so that no file is made there. -/
def openPath (path : String) (manner : Manner) : Sys τ (Except SystemFault Nat) := do
  let kernel ← get
  let isSlashed := manner.creates && path.endsWith "/"
  let path := if isSlashed ∧ path.toList.any (· != '/') then (path.dropEndWhile '/').toString else path
  match kernel.disk.resolve kernel.self.directory path (!isSlashed) with
  | .error fault => return .error fault
  | .ok spot =>
    if isSlashed then return .error .isDirectory
    else
      match spot.file?.bind fun node => (kernel.disk.find? node).map fun file => (node, file) with
      | some (node, file) => openFile node file manner
      | none =>
        if !manner.creates then return .error .missing
        else
          let mode := 0o666 &&& (0o777 ^^^ kernel.self.mask)
          let (disk, node) := kernel.disk.add kernel.standpoint spot (.octets "") mode
          set { kernel with disk }
          openFile node { body := .octets "", mode } manner

/-- Lets a descriptor lead to an open file. -/
def assign (descriptor number : Nat) : Sys τ Unit :=
  modify fun kernel => { kernel with
    self.descriptors := (descriptor, number) ::
      kernel.self.descriptors.filter fun entry => entry.1 != descriptor }

/-- Closes a descriptor. -/
def close (descriptor : Nat) : Sys τ Unit :=
  modify fun kernel => { kernel with
    self.descriptors := kernel.self.descriptors.filter fun entry => entry.1 != descriptor }.sweep

/-- Lets a descriptor lead where it did before, or nowhere. -/
def restore (descriptor : Nat) (number : Option Nat) : Sys τ Unit := do
  match number with
  | some number => assign descriptor number
  | none => close descriptor
  modify Kernel.sweep

/-- Makes a pipe: the open files of its two ends. -/
def pipe : Sys τ (Nat × Nat) := do
  let number ← fresh
  modify fun kernel => { kernel with pipes := (number, "") :: kernel.pipes }
  let reader ← enter { channel := .reader number, canWrite := false }
  let writer ← enter { channel := .writer number, canRead := false }
  return (reader, writer)

/-- Starts a process with the descriptors of the process in turn. -/
def fork (task : τ) : Sys τ Nat := do
  let number ← fresh
  modify fun kernel => { kernel with
    others := kernel.others ++ [{ kernel.self with
      number, parent := kernel.self.number, task, wake := none
      signals := { kernel.self.signals with caught := [], pending := [], held := [] } }] }
  return number

/-- Changes a process by its number. -/
def alter (number : Nat) (f : Process τ → Process τ) : Sys τ Unit :=
  modify fun kernel => kernel.change (fun process => process.number == number) f

/-- The ending of a process that has one. -/
def ending? (number : Nat) : Sys τ (Option Ending) := do
  return (← get).others.findSome? fun process =>
    if process.number == number then process.ending else none

/-- Forgets a process that has ended. -/
def bury (number : Nat) : Sys τ Unit :=
  modify fun kernel =>
    { kernel with others := kernel.others.filter fun process => process.number != number }

/-- The process in turn waits for a moment. -/
def sleepUntil (moment : Nat) : Sys τ Unit :=
  modify fun kernel => { kernel with self.wake := some moment }

end Sys

end ArtifactLens.Shell
