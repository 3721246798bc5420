import ArtifactLens.Shell.Kernel
import ArtifactLens.Shell.OctetText

/-!
# What programs do

A job is a program seen from outside: the requests that it makes of the system one after another,
each with what it does next depending on the answer. Every job that is not an endless loop by its
nature comes to an end, because each request holds only smaller jobs. `Job.copy` and
`Job.forever` are the loops: they last as long as their input, or for ever.
-/

namespace ArtifactLens.Shell

/-- Names and values that a process hands on to those it starts. -/
abbrev Environment := List (String × String)

/-- The requests of a program. -/
inductive Job where
  | exit (status : Nat)
  | write (descriptor : Nat) (text : String) (next : Option SystemFault → Job)
  /-- Reads until there is enough, or up to the end; `done` is what was read before. -/
  | gather (descriptor : Nat) (enough : String → Bool) (done : String)
      (next : Except SystemFault String → Job)
  /-- Reads at most so many octets at once; nothing is read at the end. -/
  | read (descriptor count : Nat) (next : Except SystemFault String → Job)
  /-- Moves forward or back in the file of a descriptor: whether it leads to one. -/
  | skip (descriptor : Nat) (distance : Int) (next : Bool → Job)
  /-- Writes all that can be read to some descriptors. -/
  | copy (source : Nat) (targets : List Nat) (next : Option SystemFault → Job)
  /-- Writes a text again and again. -/
  | forever (descriptor : Nat) (text : String) (next : SystemFault → Job)
  /-- Lets nanoseconds pass. -/
  | pause (duration : Nat) (next : Job)
  /-- Inspects and changes the disk. -/
  | disk (act : Disk → Standpoint → Disk × Job)
  | open (path : String) (manner : Sys.Manner) (next : Except SystemFault Nat → Job)
  | close (descriptor : Nat) (next : Job)
  /-- Makes a pipe: the descriptors of its end for reading and of the one for writing. -/
  | pipe (next : (reader writer : Nat) → Job)
  /-- Lets a descriptor lead where another one does. -/
  | direct (descriptor source : Nat) (next : Job)
  /-- Starts a job in a process of its own; the group is that of the process, or a new one. -/
  | spawn (child : Job) (ownGroup : Bool) (next : Nat → Job)
  /-- Waits for a process, or until nanoseconds have passed. -/
  | await (process : Nat) (duration : Option Nat) (next : Option Ending → Job)
  /-- Asks for the ending of any of some processes: waits for one, or takes what is there. -/
  | awaitAny (processes : List Nat) (waits : Bool) (next : Option (Nat × Ending) → Job)
  /-- Sends a signal to a process, or to all of its group. -/
  | signal (process number : Nat) (wholeGroup : Bool) (next : Job)
  /-- Changes how the process takes signals. -/
  | regard (change : Signals → Signals) (next : Signals → Job)
  /-- Asks what a descriptor leads to. -/
  | look (descriptor : Nat) (next : Option OpenFile → Job)
  /-- Changes the directory of the process. -/
  | enter (path : String) (next : Option SystemFault → Job)
  /-- Lets the process give way to others more than before; tells how much it does then. -/
  | yield (more : Int) (next : Int → Job)
  /-- Asks for the process's own number. -/
  | own (next : Nat → Job)
  /-- Turns into the program at a path; without a path it is looked for by the first word. -/
  | become (path : String) (words : List String) (environment : Environment)
      (failed : SystemFault → Job)

/-- How a program is called. -/
structure Invocation where
  name : String
  args : List String
  environment : Environment

/-- A program, by how it is called. -/
abbrev Utility := Invocation → Job

namespace Invocation

/-- The value of a name. -/
def value? (call : Invocation) (name : String) : Option String :=
  (call.environment.find? fun entry => entry.1 == name).map (·.2)

/-- The rules of a place that a category of rules is taken from, by the name of the place. -/
def placeOf (call : Invocation) (category : String) : String :=
  let set (name : String) : Option String := (call.value? name).filter (· != "")
  (set "LC_ALL" <|> set category <|> set "LANG").getD "C"

/-- The categories of rules that differ from place to place. -/
def categories : List String :=
  ["LC_CTYPE", "LC_NUMERIC", "LC_TIME", "LC_COLLATE", "LC_MONETARY", "LC_MESSAGES", "LC_PAPER",
    "LC_NAME", "LC_ADDRESS", "LC_TELEPHONE", "LC_MEASUREMENT", "LC_IDENTIFICATION"]

/-- The place has plain rules. -/
def isPlainPlace (place : String) : Bool := place == "C" || place == "POSIX"

/-- The place has plain rules for texts that are taken as UTF-8. -/
def isWidePlace (place : String) : Bool :=
  place.startsWith "C." &&
    ((place.drop 2).toString.toList.filter Char.isAlphanum).map Char.toLower == "utf8".toList

/-- The place whose rules are followed in a category. A place that is not known in any category makes
the rules plain in all of them. -/
def place (call : Invocation) (category : String) : String :=
  if categories.all fun category =>
      isPlainPlace (call.placeOf category) || isWidePlace (call.placeOf category) then
    call.placeOf category
  else "C"

/-- Texts are taken as UTF-8. -/
def isUtf8 (call : Invocation) : Bool := isWidePlace (call.place "LC_CTYPE")

/-- The characters of a text: code points, or octets where texts are not UTF-8. -/
def glyphs (call : Invocation) (text : List Char) : List OctetText.Glyph :=
  if call.isUtf8 then OctetText.units text else text.map Char.toNat

/-- The octets of characters. -/
def ofGlyphs (call : Invocation) (glyphs : List OctetText.Glyph) : List Char :=
  if call.isUtf8 then OctetText.ofUnits glyphs else glyphs.map Char.ofNat

end Invocation

namespace Job

/-- Reads all that a descriptor gives. -/
def slurp (descriptor : Nat) (next : Except SystemFault String → Job) : Job :=
  .gather descriptor (fun _ => false) "" next

/-- Complains, then goes on. -/
def complain (text : String) (next : Job) : Job := .write 2 text fun _ => next

/-- Complains in the name of the program, then goes on. -/
def warn (call : Invocation) (text : String) (next : Job) : Job :=
  complain (call.name ++ ": " ++ text ++ "\n") next

/-- Complains in the name of the program and ends. -/
def fail (call : Invocation) (text : String) (status : Nat := 1) : Job :=
  warn call text (.exit status)

/-- Complains about the use of the program and ends. -/
def misuse (call : Invocation) (text : String) (status : Nat := 1) : Job :=
  warn call text
    (complain ("Try '" ++ call.name ++ " --help' for more information.\n") (.exit status))

/-- Puts out a text, then goes on; without an output the program ends. -/
def say (call : Invocation) (text : String) (next : Job) (failure : Nat := 1) : Job :=
  .write 1 text fun fault =>
    match fault with
    | none => next
    | some fault => fail call ("write error: " ++ fault.message) failure

/-- Puts out a text and ends. -/
def answer (call : Invocation) (text : String) (status : Nat := 0) (failure : Nat := 1) : Job :=
  say call text (.exit status) failure

/-- Leaves octets that were read for whoever reads the descriptor next. -/
def giveBack (descriptor count : Nat) (next : Job) : Job :=
  if count = 0 then next else .skip descriptor (-(count : Int)) fun _ => next

/-- Reads what a name stands for: the input for `-`, or else a file. -/
def readInput (name : String) (next : Except SystemFault String → Job) : Job :=
  if name = "-" then slurp 0 next
  else
    .open name { reads := true } fun opened =>
      match opened with
      | .error fault => next (.error fault)
      | .ok descriptor => slurp descriptor fun text => .close descriptor (next text)

/-- Reads the inputs that names stand for, of which there is the input alone if there are none.
Those that cannot be read are complained about and left out; `next` learns whether there were
any. -/
def readInputs (call : Invocation) (names : List String)
    (next : (inputs : List (String × String)) → (failed : Bool) → Job)
    (complaint : String → SystemFault → String := fun name fault => name ++ ": " ++ fault.message) :
    Job :=
  let rec go (done : List (String × String)) (failed : Bool) : List String → Job
    | [] => next done.reverse failed
    | name :: rest =>
      readInput name fun text =>
        match text with
        | .ok text => go ((name, text) :: done) failed rest
        | .error fault => warn call (complaint name fault) (go done true rest)
  go [] false (if names.isEmpty then ["-"] else names)

/-- Runs a command of the shell and goes on with what it puts out. -/
def capture (call : Invocation) (command : String) (next : String → Job) : Job :=
  .pipe fun reader writer =>
    let run : Job := .become "/bin/sh" ["sh", "-c", command] call.environment fun _ => .exit 127
    .spawn (.close reader (.direct 1 writer (.close writer run))) false fun process =>
      .close writer <| slurp reader fun text =>
        .close reader <| .await process none fun _ => next (text.toOption.getD "")

end Job

end ArtifactLens.Shell
