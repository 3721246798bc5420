import ArtifactLens.Shell.Utility.Amount
import ArtifactLens.Shell.Utility.Basic

/-!
# Passing text on

A filter reads its inputs one after another, and puts out what it makes of each piece before it reads
the next. So it keeps up with inputs that have no end, and what it complains about an input stands
between what it makes of those before and after. A filter is a step on a state; `Filter.run` reads
for it, and `Filter.ofLines` makes one of a step for lines.
-/

namespace ArtifactLens.Shell

namespace Utility

/-- The most requests to read that are made of one input. -/
def mostReads : Nat := 1000000000

/-- How much is read at once. -/
def pieceSize : Nat := 4096

/-- What a program makes of its inputs: a step for each piece of text, and one for the end of each
input. -/
structure Filter (State : Type) where
  feed : State → String → State × String
  close : State → State × String := fun state => (state, "")
  /-- Why the filter cannot go on. -/
  stuck? : State → Option String := fun _ => none

/-- How far a program has come. What it puts out is kept back until there is enough of it. -/
structure Progress (State : Type) where
  state : State
  /-- Some input could not be read. -/
  failed : Bool := false
  /-- There is no standard input, although it is wanted. -/
  lacksInput : Bool := false
  /-- What was put out and not written yet, the newest first. -/
  held : List String := []
  /-- How much that is. -/
  size : Nat := 0
  /-- Why the output could not be written. -/
  unwritten : Option SystemFault := none

namespace Progress

variable {State : Type}

/-- Goes on in another state. -/
def withState {Other : Type} (progress : Progress State) (state : Other) : Progress Other :=
  { progress with state }

/-- Keeps a text to be put out. -/
def keep (progress : Progress State) (text : String) : Progress State :=
  if text = "" then progress
  else { progress with held := text :: progress.held, size := progress.size + text.length }

/-- Writes so much of what is kept. -/
def write (progress : Progress State) (size : Nat) (next : Progress State → Job) : Job :=
  if size = 0 then next progress
  else
    let text := String.join progress.held.reverse
    let later := (text.drop size).toString
    .write 1 (text.take size).toString fun fault =>
      next { progress with
        held := [later], size := later.length, unwritten := progress.unwritten <|> fault }

/-- Writes what is kept. -/
def flush (progress : Progress State) (next : Progress State → Job) : Job :=
  progress.write progress.size next

/-- Puts out a text: whole blocks of what is kept are written. -/
def put (progress : Progress State) (text : String) (next : Progress State → Job) : Job :=
  let progress := progress.keep text
  progress.write (if progress.size ≤ pieceSize then 0
    else progress.size / pieceSize * pieceSize) next

/-- Puts out a line and writes it at once. -/
def putNow (progress : Progress State) (text : String) (next : Progress State → Job) : Job :=
  (progress.keep text).flush next

/-- Puts out a text; if it ends a line it is written at once. -/
def putLine (progress : Progress State) (text : String) (next : Progress State → Job) : Job :=
  if text.endsWith "\n" then progress.putNow text next else progress.put text next

/-- Complains, once all was written that comes before. -/
def warn (progress : Progress State) (call : Invocation) (text : String)
    (next : Progress State → Job) : Job :=
  progress.flush fun progress => Job.warn call text (next progress)

/-- Ends with a status, once what went wrong with the input and the output proper was told. What kept
the output from being written is named only if it did so in the end. -/
def exit (progress : Progress State) (call : Invocation) (status : Nat) : Job :=
  let leave (status : Nat) (progress : Progress State) : Job :=
    let before := progress.unwritten.filter (· != SystemFault.badDescriptor)
    ({ progress with unwritten := progress.unwritten.filter (· == SystemFault.badDescriptor) }).flush
      fun progress =>
        match progress.unwritten, before with
        | some fault, _ => Job.fail call ("write error: " ++ fault.message)
        | none, some _ => Job.fail call "write error"
        | none, none => .exit status
  if progress.lacksInput then
    progress.flush fun progress =>
      Job.warn call ("-: " ++ SystemFault.badDescriptor.message) (leave 1 progress)
  else leave status progress

/-- Ends; the status tells whether some input could not be read. -/
def finish (progress : Progress State) (call : Invocation) : Job :=
  progress.exit call (if progress.failed then 1 else 0)

/-- Complains and ends. -/
def fail (progress : Progress State) (call : Invocation) (text : String) (status : Nat := 1) : Job :=
  progress.warn call text (·.exit call status)

end Progress

namespace Filter

variable {State : Type}

/-- Passes on what a descriptor gives; `next` learns why reading came to an end early. -/
def readOn (call : Invocation) (filter : Filter State) (descriptor : Nat)
    (next : Progress State → Option SystemFault → Job) :
    (measure : Nat) → Progress State → Job
  | 0, progress => next progress none
  | measure + 1, progress =>
    .read descriptor pieceSize fun piece =>
      let (state, text) := match piece with
        | .ok "" | .error _ => filter.close progress.state
        | .ok piece => filter.feed progress.state piece
      let progress := { progress with state }
      progress.put text fun progress =>
        match filter.stuck? progress.state, piece with
        | some complaint, _ => progress.fail call complaint
        | none, .ok "" => next progress none
        | none, .ok _ => readOn call filter descriptor next measure progress
        | none, .error fault => next progress (some fault)

/-- What is usually said of an input that cannot be read. -/
def refusal (call : Invocation) (name : String) (fault : SystemFault) : String :=
  call.quoteTitle name ++ ": " ++ fault.message

/-- Passes on the inputs that names stand for, `-` for the input proper; `refuse` is what is said of
those that cannot be read. -/
def run (call : Invocation) (filter : Filter State) (refuse : String → SystemFault → String)
    (next : Progress State → Job) : Progress State → List String → Job
  | progress, [] => next progress
  | progress, name :: rest =>
    let blame (progress : Progress State) (fault : SystemFault) : Job :=
      let lacksInput := progress.lacksInput || (name == "-" && fault == .badDescriptor)
      progress.warn call (refuse name fault) fun progress =>
        run call filter refuse next { progress with failed := true, lacksInput } rest
    let goOn (progress : Progress State) (fault : Option SystemFault) : Job :=
      match fault with
      | none => run call filter refuse next progress rest
      | some fault => blame progress fault
    if name = "-" then readOn call filter 0 goOn mostReads progress
    else
      .open name { reads := true } fun opened =>
        match opened with
        | .error fault => blame progress fault
        | .ok descriptor =>
          readOn call filter descriptor (fun progress fault =>
            .close descriptor (goOn progress fault)) mostReads progress

/-- Passes on the inputs that names stand for, or the input proper if there are none, and ends. -/
def pass (call : Invocation) (filter : Filter State) (state : State) (names : List String)
    (refuse : String → SystemFault → String := refusal call) : Job :=
  run call filter refuse (·.finish call) { state } (if names.isEmpty then ["-"] else names)

/-- Steps through lines and gathers what comes of them. -/
def steps (step : State → Line → State × String) (state : State) (lines : List Line) :
    State × String :=
  let (state, pieces) := lines.foldl (fun (state, pieces) line =>
    let (state, text) := step state line
    (state, text :: pieces)) (state, ([] : List String))
  (state, String.join pieces.reverse)

/-- The filter of a step for lines, which end with a mark. The start of a line waits until its end
is there. -/
def ofLines (mark : Char) (step : State → Line → State × String)
    (stuck? : State → Option String := fun _ => none) : Filter (State × String) where
  feed := fun (state, start) piece =>
    let parts := piece.splitOn (String.singleton mark)
    match parts with
    | [] | [_] => ((state, start ++ piece), "")
    | first :: rest =>
      let (state, text) := steps step state
        (((start ++ first) :: rest.dropLast).map fun text => ⟨text, true⟩)
      ((state, rest.getLastD ""), text)
  close := fun (state, start) =>
    if start = "" then ((state, ""), "")
    else
      let (state, text) := step state ⟨start, false⟩
      ((state, ""), text)
  stuck? := fun (state, _) => stuck? state

/-- The filter that makes a text of each line. -/
def ofLine (mark : Char) (text : Line → String) : Filter (Unit × String) :=
  ofLines mark fun _ line => ((), text line)

end Filter

end Utility

end ArtifactLens.Shell
