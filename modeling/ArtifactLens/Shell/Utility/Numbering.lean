import ArtifactLens.Shell.Conversion
import ArtifactLens.Shell.Regex.Matching
import ArtifactLens.Shell.Regex.Reading
import ArtifactLens.Shell.Utility.Filtering

/-!
# Numbering lines

The program `nl` takes its input as pages, each with a header, a body and a footer, which begin at
lines that hold a delimiter three times, twice and once. Every section has its own rule for which
lines are numbered.
-/

namespace ArtifactLens.Shell

namespace Utility

/-- Which lines of a section are numbered. -/
inductive NumberedLines where
  | all
  /-- Those that are not empty. -/
  | full
  | none
  | matching (regex : Regex)

/-- The sections of a page. -/
inductive PageSection where
  | header
  | body
  | footer
  deriving DecidableEq

/-- How lines are numbered. -/
structure Numbering where
  styles : PageSection → NumberedLines
  /-- What sections are told by. -/
  delimiter : String := "\\:"
  increment : Int := 1
  start : Int := 1
  /-- Each section begins to count anew. -/
  restarts : Bool := true
  /-- Of so many empty lines the last one is numbered, where all lines are. -/
  joined : Nat := 1
  separator : String := "\t"
  conversion : Conversion := { letter := 'd', width := 6 }

/-- Where the numbering of lines stands. -/
structure NumberingState where
  part : PageSection := .body
  number : Int
  /-- The number is beyond what numbers can hold. -/
  isBeyond : Bool := false
  /-- A line was to have a number that cannot be had. -/
  isStuck : Bool := false
  /-- Empty lines that were not numbered, one after another. -/
  empty : Nat := 0

namespace Numbering

/-- The section that begins at a line. -/
def sectionAt? (numbering : Numbering) (line : String) : Option PageSection :=
  let mark := numbering.delimiter
  if mark.length < 2 then none
  else if line = mark ++ mark ++ mark then some .header
  else if line = mark ++ mark then some .body
  else if line = mark then some .footer
  else none

/-- What stands in front of a line without a number. -/
def blank (numbering : Numbering) : String :=
  String.ofList
    (List.replicate (numbering.conversion.width + numbering.separator.length) ' ')

/-- Numbers a line. -/
def count (numbering : Numbering) (state : NumberingState) (line : String) :
    NumberingState × String :=
  if state.isBeyond then ({ state with isStuck := true }, "")
  else
    let next := state.number + numbering.increment
    let isBeyond := next < -(2 ^ 63) || 2 ^ 63 - 1 < next
    ({ state with number := next, isBeyond },
      numbering.conversion.integer state.number ++ numbering.separator ++ line ++ "\n")

/-- Goes on by a line. -/
def step (numbering : Numbering) (call : Invocation) (state : NumberingState) (line : Line) :
    NumberingState × String :=
  let text := line.text
  if state.isStuck then (state, "")
  else
    match numbering.sectionAt? text with
    | some part =>
      let state := { state with part }
      (if numbering.restarts then { state with number := numbering.start, isBeyond := false }
        else state, "\n")
    | none =>
      let plain (state : NumberingState) : NumberingState × String :=
        (state, numbering.blank ++ text ++ "\n")
      match numbering.styles state.part with
      | .none => plain state
      | .full => if text = "" then plain state else numbering.count state text
      | .all =>
        if numbering.joined ≤ 1 then numbering.count state text
        else if text ≠ "" ∨ state.empty + 1 = numbering.joined then
          numbering.count { state with empty := 0 } text
        else plain { state with empty := state.empty + 1 }
      | .matching regex =>
        let subject : Regex.Subject := { chars := (call.glyphs text.toList).toArray }
        if (regex.search subject 0 fun _ _ => true).isSome then numbering.count state text
        else plain state

end Numbering

/-- What reading the options of `nl` comes to: the manner so far, and what was complained. -/
structure NumberingOptions where
  numbering : Numbering
  complaints : List String := []

namespace NumberingOptions

/-- Which lines a text says are numbered. -/
def style? (call : Invocation) (text : String) : Except Regex.Fault (Option NumberedLines) :=
  match text.toList with
  | 'a' :: _ => .ok (some .all)
  | 't' :: _ => .ok (some .full)
  | 'n' :: _ => .ok (some .none)
  | 'p' :: pattern =>
    match Regex.parse .basic (call.glyphs pattern) with
    | .error fault => .error fault
    | .ok { regex, .. } => .ok (some (.matching regex))
  | _ => .ok none

/-- Sets the style of a section. -/
def setStyle (call : Invocation) (options : NumberingOptions) (part : PageSection)
    (noun text : String) : Except String NumberingOptions :=
  match style? call text with
  | .error fault => .error fault.message
  | .ok none =>
    .ok { options with
      complaints := ("invalid " ++ noun ++ " numbering style: " ++ call.quote text) ::
        options.complaints }
  | .ok (some style) =>
    let numbering := options.numbering
    .ok { options with numbering := { numbering with
      styles := fun other => if other = part then style else numbering.styles other } }

/-- Reads a number that an option has. -/
def number (call : Invocation) (least most : Int) (noun text : String) : Except String Int :=
  match Amount.within "" true least most text with
  | .ok value => .ok value
  | .error fault => .error (Amount.complaint call ("invalid " ++ noun) text fault)

/-- Takes one option; what is refused at once is the error. -/
def add (call : Invocation) (options : NumberingOptions) (option : Char × String) :
    Except String NumberingOptions := do
  let numbering := options.numbering
  let with' (numbering : Numbering) : NumberingOptions := { options with numbering }
  let least : Int := -(2 ^ 63)
  let most : Int := 2 ^ 63 - 1
  let (letter, text) := option
  match letter with
  | 'h' => setStyle call options .header "header" text
  | 'b' => setStyle call options .body "body" text
  | 'f' => setStyle call options .footer "footer" text
  | 'v' => return with' { numbering with
      start := ← number call least most "starting line number" text }
  | 'i' => return with' { numbering with
      increment := ← number call least most "line number increment" text }
  | 'l' => return with' { numbering with
      joined := (← number call 1 most "line number of blank lines" text).toNat }
  | 'w' =>
    let width ← number call 1 (2 ^ 31 - 1) "line number field width" text
    return with' { numbering with
      conversion := { numbering.conversion with width := width.toNat } }
  | 'p' => return with' { numbering with restarts := false }
  | 's' => return with' { numbering with separator := text }
  | 'd' =>
    -- One character replaces the first one of the usual two.
    return with' { numbering with
      delimiter := if text.length = 1 then text ++ (numbering.delimiter.drop 1).toString
        else text }
  | _ =>
    let conversion := { numbering.conversion with zeros := false, leftAligned := false }
    match text with
    | "ln" => return with' { numbering with conversion := { conversion with leftAligned := true } }
    | "rn" => return with' { numbering with conversion }
    | "rz" => return with' { numbering with conversion := { conversion with zeros := true } }
    | _ =>
      return { options with
        complaints := ("invalid line numbering format: " ++ call.quote text) ::
          options.complaints }

/-- Takes options one after another, up to one that is refused at once. -/
def addAll (call : Invocation) (options : NumberingOptions) :
    List (Char × String) → NumberingOptions × Option String
  | [] => (options, none)
  | option :: rest =>
    match options.add call option with
    | .error complaint => (options, some complaint)
    | .ok options => addAll call options rest

end NumberingOptions

/-- The program `nl`. -/
def nl : Utility := fun call =>
  let accepted : Accepted :=
    { letters := "h:b:f:v:i:pl:s:w:n:d:"
      names := [("header-numbering", 'h'), ("body-numbering", 'b'), ("footer-numbering", 'f'),
        ("starting-line-number", 'v'), ("line-increment", 'i'), ("no-renumber", 'p'),
        ("join-blank-lines", 'l'), ("number-separator", 's'), ("number-width", 'w'),
        ("number-format", 'n'), ("section-delimiter", 'd')] }
  let numbering : Numbering := { styles := fun part => if part = .body then .full else .none }
  let read (arguments : Arguments) : NumberingOptions × Option String :=
    NumberingOptions.addAll call { numbering } arguments.options
  let complain (options : NumberingOptions) (next : Job) : Job :=
    options.complaints.reverse.foldr (fun complaint next => Job.warn call complaint next) next
  accepted.read call 1 (fun arguments =>
      match read arguments with
      | (options, some refusal) => complain options (Job.fail call refusal)
      | (options, none) =>
        let numbering := options.numbering
        if !options.complaints.isEmpty then
          complain options
            (Job.complain ("Try '" ++ call.name ++ " --help' for more information.\n") (.exit 1))
        else
          Filter.pass call
            (.ofLines '\n' (numbering.step call) fun state =>
              if state.isStuck then some "line number overflow" else none)
            ({ number := numbering.start }, "") arguments.operands)
    fun arguments misuse =>
      match read arguments with
      | (options, some refusal) => complain options (Job.fail call refusal)
      | (options, none) => complain options misuse

end Utility

end ArtifactLens.Shell
