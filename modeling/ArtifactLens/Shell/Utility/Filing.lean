import ArtifactLens.Shell.Utility.Basic

/-!
# Acting on files

How programs work on the disk: an act changes the disk, has things to say and to complain about,
and may ask for a yes or a no. Complaints come out before what is said. An act that lacks an answer
has changed nothing; more of the input is read, and it is tried again with what is known then.
-/

namespace ArtifactLens.Shell

namespace Utility

/-- How far an act on the disk has come. -/
structure FilingState where
  call : Invocation
  stand : Standpoint
  disk : Disk
  /-- What was said, the newest piece first. -/
  said : List String := []
  complaints : List String := []
  failed : Bool := false
  /-- What of the input no answer was taken from yet. -/
  input : String
  /-- All of the input is known. -/
  isWhole : Bool

/-- An act on the disk; without a result it lacks an answer. -/
abbrev Filing := StateT FilingState Option

namespace Filing

/-- Says a text. -/
def say (text : String) : Filing Unit := modify fun state => { state with said := text :: state.said }

/-- Puts a text among the complaints, which is no failure. -/
def note (text : String) : Filing Unit :=
  modify fun state => { state with complaints := text :: state.complaints }

/-- Warns in the name of the program, which is no failure. -/
def warn (text : String) : Filing Unit := do
  note ((← get).call.name ++ ": " ++ text ++ "\n")

/-- Complains, which is a failure. -/
def complain (text : String) : Filing Unit := do
  warn text
  modify fun state => { state with failed := true }

/-- Complains about a fault of the system. -/
def complainOf (text : String) (fault : SystemFault) : Filing Unit :=
  complain (text ++ ": " ++ fault.message)

/-- Asks for a yes. -/
def ask (question : String) : Filing Bool := do
  note ((← get).call.name ++ ": " ++ question)
  let state ← get
  let line := (state.input.takeWhile (· != '\n')).toString
  if line.length = state.input.length ∧ !state.isWhole then failure
  else
    set { state with input := (state.input.drop (line.length + 1)).toString }
    return line.startsWith "y" || line.startsWith "Y"

/-- A text between quotes. -/
def quote (text : String) : Filing String := return (← get).call.quote text

/-- The name of a file between quotes. -/
def quoteName (text : String) : Filing String := return (← get).call.quoteName text

/-- The directory from which paths lead. -/
def here : Filing FileNumber := return (← get).stand.directory

/-- The moment it is. -/
def now : Filing Int := return (← get).stand.moment

/-- The file of a path, with its number. -/
def inspect (path : String) (followsLast : Bool := true) :
    Filing (Except SystemFault (FileNumber × DiskFile)) := do
  let state ← get
  return state.disk.inspect state.stand.directory path followsLast

/-- A file by its number. -/
def file? (number : FileNumber) : Filing (Option DiskFile) := return (← get).disk.find? number

/-- Changes the disk as a request does; the fault is told, if there is one. -/
def request (change : Disk → Standpoint → Except SystemFault Disk) :
    Filing (Option SystemFault) := do
  let state ← get
  match change state.disk state.stand with
  | .ok disk =>
    set { state with disk }
    return none
  | .error fault => return some fault

/-- Changes a file. -/
def change (number : FileNumber) (f : DiskFile → DiskFile) : Filing Unit :=
  modify fun state => { state with disk := state.disk.change number f }

/-- How an act ends as a job. -/
def finish (state : FilingState) (failure : Nat) : Job :=
  let status := if state.failed then failure else 0
  let text := String.join state.said.reverse
  let ending : Job := if text = "" then .exit status
    else Job.answer state.call text status
  let complaints := String.join state.complaints.reverse
  if complaints = "" then ending else Job.complain complaints ending

/-- The most questions that are asked. -/
def mostQuestions : Nat := 100000

/-- Carries out an act with what is known of the input, then goes on; more is read if need be. -/
def carryOut (call : Invocation) (act : Filing Unit) (next : FilingState → Job)
    (input : String) (isWhole : Bool) : (measure : Nat) → Job
  | 0 => .exit 1
  | measure + 1 =>
    .disk fun disk stand =>
      match act.run { call, stand, disk, input, isWhole } with
      | some (_, state) => (state.disk, next state)
      | none =>
        (disk, .gather 0 (fun text => text.length > input.length ∧ text.contains '\n') input fun read =>
          match read with
          | .ok text => carryOut call act next text (text.length ≤ input.length) measure
          | .error _ => carryOut call act next input true measure)

/-- The job of an act, with a status for failures. -/
def job (call : Invocation) (act : Filing Unit) (failure : Nat := 1) : Job :=
  carryOut call act (finish · failure) "" false mostQuestions

end Filing

/-- A path below a directory. -/
def pathBelow (directory name : String) : String :=
  if directory.endsWith "/" then directory ++ name else directory ++ "/" ++ name

end Utility

end ArtifactLens.Shell
