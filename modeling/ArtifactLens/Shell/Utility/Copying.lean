import ArtifactLens.Shell.Utility.Basic

/-!
# Copying

Programs that pass their input on: whole, in part, or turned around.
-/

namespace ArtifactLens.Shell

namespace Utility

/-! ### Whole -/

/-- How `cat` shows a text. -/
structure Showing where
  numbers : Bool := false
  /-- Lines without text have no number. -/
  numbersFull : Bool := false
  squeezes : Bool := false
  ends : Bool := false
  tabs : Bool := false
  unprintable : Bool := false

namespace Showing

/-- The showing that options ask for. -/
def ofOptions (arguments : Arguments) : Showing :=
  arguments.options.foldl (fun showing option =>
    match option.1 with
    | 'n' => { showing with numbers := true }
    | 'b' => { showing with numbers := true, numbersFull := true }
    | 's' => { showing with squeezes := true }
    | 'E' => { showing with ends := true }
    | 'T' => { showing with tabs := true }
    | 'v' => { showing with unprintable := true }
    | 'A' => { showing with ends := true, tabs := true, unprintable := true }
    | 'e' => { showing with ends := true, unprintable := true }
    | 't' => { showing with tabs := true, unprintable := true }
    | _ => showing) {}

/-- Nothing is changed. -/
def isPlain (showing : Showing) : Bool :=
  !(showing.numbers || showing.squeezes || showing.ends || showing.tabs || showing.unprintable)

/-- How a character is shown. -/
def character (showing : Showing) (c : Char) : List Char :=
  let n := c.toNat
  let caret (n : Nat) : List Char :=
    if n < 0x20 then ['^', Char.ofNat (n + 0x40)]
    else if n = 0x7f then ['^', '?']
    else [Char.ofNat n]
  if c = '\t' then (if showing.tabs then ['^', 'I'] else ['\t'])
  else if !showing.unprintable then [c]
  else if n ≥ 0x80 then ['M', '-'] ++ caret (n - 0x80)
  else caret n

/-- Shows lines from a number on; `wasEmpty` tells that an empty line came before. -/
def lines (showing : Showing) (number : Nat) (wasEmpty : Bool) : List String → List String
  | [] => []
  | line :: rest =>
    if showing.squeezes ∧ wasEmpty ∧ line = "" then lines showing number true rest
    else
      let counts := showing.numbers && !(showing.numbersFull && line == "")
      let start := if counts then right 6 (toString number) ++ "\t" else ""
      let body := if showing.tabs || showing.unprintable then
          String.ofList (line.toList.flatMap showing.character) else line
      (start ++ body) ::
        lines showing (if counts then number + 1 else number) (line == "") rest

/-- Shows a text. -/
def text (showing : Showing) (text : String) : String :=
  let ending := if showing.ends then "$\n" else "\n"
  let shown := showing.lines 1 false (linesOf text)
  if isUnterminated text then String.intercalate ending shown
  else String.join (shown.map (· ++ ending))

end Showing

/-- Copies inputs to the output one after another, as they come. -/
def copyAll (call : Invocation) (failed : Bool) : List String → Job
  | [] => .exit (if failed then 1 else 0)
  | name :: rest =>
    let next (failed : Bool) : Job := copyAll call failed rest
    let after (fault : Option SystemFault) : Job :=
      match fault with
      | none => next failed
      | some .badDescriptor =>
        Job.warn call (name ++ ": " ++ SystemFault.badDescriptor.message)
          (if name = "-" then
            Job.fail call ("closing standard input: " ++ SystemFault.badDescriptor.message)
          else next true)
      | some .noSpace => Job.fail call ("write error: " ++ SystemFault.noSpace.message)
      | some fault => Job.warn call (name ++ ": " ++ fault.message) (next true)
    if name = "-" then .copy 0 [1] after
    else
      .open name { reads := true } fun opened =>
        match opened with
        | .error fault => Job.warn call (name ++ ": " ++ fault.message) (next true)
        | .ok descriptor =>
          .copy descriptor [1] fun fault => .close descriptor (after fault)

/-- The program `cat`. -/
def cat : Utility := fun call =>
  let accepted : Accepted :=
    { letters := "AbeEnstTuv"
      names := [("show-all", 'A'), ("number-nonblank", 'b'), ("show-ends", 'E'), ("number", 'n'),
        ("squeeze-blank", 's'), ("show-tabs", 'T'), ("show-nonprinting", 'v')] }
  accepted.read call 1 fun arguments =>
    let showing := Showing.ofOptions arguments
    let names := if arguments.operands.isEmpty then ["-"] else arguments.operands
    if showing.isPlain then copyAll call false names
    else
      Job.readInputs call names fun inputs failed =>
        Job.answer call (showing.text (String.join (inputs.map (·.2)))) (if failed then 1 else 0)

/-- The program `tee`. -/
def tee : Utility := fun call =>
  let accepted : Accepted :=
    { letters := "aip", names := [("append", 'a'), ("ignore-interrupts", 'i')] }
  accepted.read call 1 fun arguments =>
    let appends := arguments.has 'a'
    let rec opening (descriptors : List Nat) (failed : Bool) : List String → Job
      | [] => .copy 0 (1 :: descriptors.reverse) fun _ => .exit (if failed then 1 else 0)
      | name :: rest =>
        .open name { writes := true, creates := true, truncates := !appends, appends } fun opened =>
          match opened with
          | .ok descriptor => opening (descriptor :: descriptors) failed rest
          | .error fault =>
            Job.warn call (name ++ ": " ++ fault.message) (opening descriptors true rest)
    opening [] false arguments.operands

/-! ### In part -/

/-- A part at the start or the end of a text. -/
structure Extent where
  /-- Lines are counted, and not octets. -/
  lines : Bool := true
  count : Nat := 10
  /-- The part reaches to within the count of the other end. -/
  inverted : Bool := false

namespace Extent

/-- The first lines of a text, with their newlines. -/
def firstLines (text : String) (count : Nat) : String :=
  let pieces := text.splitOn "\n"
  if pieces.length ≤ count then text
  else String.join ((pieces.take count).map (· ++ "\n"))

/-- A text without its first lines. -/
def withoutLines (text : String) (count : Nat) : String :=
  String.intercalate "\n" ((text.splitOn "\n").drop count)

/-- The number of lines of a text, the last of which may lack its newline. -/
def lineCount (text : String) : Nat := (linesOf text).length

/-- The part at the start. -/
def first (extent : Extent) (text : String) : String :=
  match extent.lines, extent.inverted with
  | true, false => firstLines text extent.count
  | true, true => firstLines text (lineCount text - extent.count)
  | false, false => (text.take extent.count).toString
  | false, true => (text.take (text.length - extent.count)).toString

/-- The part at the end. -/
def last (extent : Extent) (text : String) : String :=
  match extent.lines, extent.inverted with
  | true, false => withoutLines text (lineCount text - extent.count)
  | true, true => withoutLines text (extent.count - 1)
  | false, false => (text.drop (text.length - extent.count)).toString
  | false, true => (text.drop (extent.count - 1)).toString

/-- The part at the start is in the text for sure, however it goes on. -/
def isReached (extent : Extent) (text : String) : Bool :=
  !extent.inverted &&
    if extent.lines then
      extent.count == 0 || (text.splitOn "\n").length > extent.count
    else text.length ≥ extent.count

end Extent

/-- The extent that the options of `head` or `tail` tell; `sign` is the one that inverts it. -/
def extentOf (call : Invocation) (arguments : Arguments) (sign other : Char)
    (next : Extent → Job) : Job :=
  match arguments.last? ['n', 'c'] with
  | none => next {}
  | some (letter, text) =>
    let (inverted, digits) := match text.toList with
      | c :: rest =>
        if c = sign then (true, String.ofList rest)
        else if c = other then (false, String.ofList rest)
        else (false, text)
      | [] => (false, "")
    match size? digits with
    | some count => next { lines := letter == 'n', count, inverted }
    | none =>
      Job.fail call ("invalid number of " ++ (if letter = 'n' then "lines" else "bytes") ++ ": " ++
        call.quote text)

/-- Whether headings tell the names of inputs. -/
def hasHeadings (arguments : Arguments) : Bool :=
  match arguments.last? ['q', 'v'] with
  | some ('v', _) => true
  | some _ => false
  | none => arguments.operands.length > 1

/-- Shows parts of inputs one after another. -/
def showParts (call : Invocation) (headings : Bool) (part : String → String)
    (enough : String → Bool) (isFirst failed : Bool) : List String → Job
  | [] => .exit (if failed then 1 else 0)
  | name :: rest =>
    let present (text : String) (next : Job) : Job :=
      let title := if name = "-" then "standard input" else name
      let heading := if headings then
          (if isFirst then "" else "\n") ++ "==> " ++ title ++ " <==\n" else ""
      Job.say call (heading ++ part text) next
    let refuse (fault : SystemFault) : Job :=
      let text := match fault with
        | .isDirectory => "error reading " ++ call.quoteName name ++ ": " ++ fault.message
        | _ => "cannot open " ++ call.quoteName name ++ " for reading: " ++ fault.message
      Job.warn call text (showParts call headings part enough isFirst true rest)
    let next : Job := showParts call headings part enough false failed rest
    if name = "-" then
      .gather 0 enough "" fun text =>
        match text with
        | .ok text => present text next
        | .error fault => refuse fault
    else
      .open name { reads := true } fun opened =>
        match opened with
        | .error fault => refuse fault
        | .ok descriptor =>
          .gather descriptor enough "" fun text =>
            match text with
            | .ok text => .close descriptor (present text next)
            | .error fault => refuse fault

/-- The program `head`. -/
def head : Utility := fun call =>
  let accepted : Accepted :=
    { letters := "n:c:qvz", numbers := true
      names := [("lines", 'n'), ("bytes", 'c'), ("quiet", 'q'), ("silent", 'q'),
        ("verbose", 'v')] }
  accepted.read call 1 fun arguments =>
    extentOf call arguments '-' '+' fun extent =>
      let names := if arguments.operands.isEmpty then ["-"] else arguments.operands
      showParts call (hasHeadings arguments) extent.first extent.isReached true false names

/-- The program `tail`. -/
def tail : Utility := fun call =>
  let accepted : Accepted :=
    { letters := "n:c:qvz", numbers := true
      names := [("lines", 'n'), ("bytes", 'c'), ("quiet", 'q'), ("silent", 'q'),
        ("verbose", 'v')] }
  let asked : Invocation := match call.args with
    | first :: rest =>
      if first.startsWith "+" ∧ first.length > 1 then { call with args := "-n" :: first :: rest }
      else call
    | [] => call
  accepted.read asked 1 fun arguments =>
    extentOf call arguments '+' '-' fun extent =>
      let names := if arguments.operands.isEmpty then ["-"] else arguments.operands
      showParts call (hasHeadings arguments) extent.last (fun _ => false) true false names

/-! ### From nothing -/

/-- The program `yes`. -/
def yes : Utility := fun call =>
  let line := (if call.args.isEmpty then "y" else String.intercalate " " call.args) ++ "\n"
  let copies := max 1 (4096 / line.length)
  let text := String.join (List.replicate copies line)
  .forever 1 text fun fault => Job.fail call ("standard output: " ++ fault.message)

end Utility

end ArtifactLens.Shell
