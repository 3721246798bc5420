import ArtifactLens.Shell.Utility.Filtering
import ArtifactLens.Text.Columns

/-!
# Counting

The program `wc` counts lines, words, characters and octets of its inputs, and measures their longest
lines. A word is a run of characters without blanks, of which one at least can be shown.
-/

namespace ArtifactLens.Shell

namespace Utility

/-- What is counted of a text. -/
structure Counts where
  lines : Nat := 0
  words : Nat := 0
  characters : Nat := 0
  octets : Nat := 0
  longest : Nat := 0

namespace Counts

/-- The counts of two texts together. -/
def add (a b : Counts) : Counts :=
  { lines := a.lines + b.lines, words := a.words + b.words
    characters := a.characters + b.characters, octets := a.octets + b.octets
    longest := max a.longest b.longest }

/-- The count that a letter stands for. -/
def number (counts : Counts) (letter : Char) : Nat :=
  match letter with
  | 'l' => counts.lines
  | 'w' => counts.words
  | 'm' => counts.characters
  | 'c' => counts.octets
  | _ => counts.longest

end Counts

/-- A text that is being counted. -/
structure CountedText where
  counts : Counts := {}
  /-- The column that the line has come to. -/
  column : Nat := 0
  inWord : Bool := false
  /-- Octets that may begin a character. -/
  rest : List Char := []

namespace CountedText

/-- Blanks that words do not go over, although lines are not broken at them. -/
def isFixedBlank (unit : OctetText.Glyph) : Bool :=
  [0xa0, 0x2007, 0x202f, 0x2060].contains unit

/-- The character beyond ASCII is a blank. -/
def isBlank (unit : OctetText.Glyph) : Bool :=
  unit == 0x1680 || (0x2000 ≤ unit && unit ≤ 0x200a) || unit == 0x205f || unit == 0x3000 ||
    isFixedBlank unit

/-- Ends a word. -/
def endWord (text : CountedText) : CountedText :=
  if text.inWord then
    { text with inWord := false, counts := { text.counts with words := text.counts.words + 1 } }
  else text

/-- Ends the columns of a line. -/
def endColumns (text : CountedText) : CountedText :=
  { text with
    column := 0, counts := { text.counts with longest := max text.counts.longest text.column } }

/-- Counts a unit of a text. -/
def step (isUtf8 : Bool) (text : CountedText) (unit : OctetText.Glyph) : CountedText :=
  if unit ≥ OctetText.strayBase then text
  else
    let text := { text with counts := { text.counts with characters := text.counts.characters + 1 } }
    match unit with
    | 0x0a =>
      { text with counts := { text.counts with lines := text.counts.lines + 1 } }.endColumns.endWord
    | 0x0d | 0x0c => text.endColumns.endWord
    | 0x09 => { text with column := text.column + 8 - text.column % 8 }.endWord
    | 0x20 => { text with column := text.column + 1 }.endWord
    | 0x0b => text.endWord
    | unit =>
      if unit < 0x80 then
        if 0x20 ≤ unit ∧ unit < 0x7f then { text with column := text.column + 1, inWord := true }
        else text
      else if !isUtf8 ∨ !Unprintable.isDisplayed (Char.ofNat unit) then text
      else
        let text := { text with column := text.column + Columns.width (Char.ofNat unit) }
        if isBlank unit then text.endWord else { text with inWord := true }

/-- The octets at the end of a text that may begin a character. -/
def unfinished (octets : List Char) : List Char :=
  let last := octets.reverse.take 3
  let tail := last.takeWhile fun c => 0x80 ≤ c.toNat && c.toNat < 0xc0
  match last.drop tail.length with
  | start :: _ =>
    let need := if start.toNat ≥ 0xf0 then 3 else if start.toNat ≥ 0xe0 then 2
      else if start.toNat ≥ 0xc2 then 1 else 0
    if start.toNat < 0xf5 ∧ tail.length < need then start :: tail.reverse else []
  | [] => []

/-- Counts a piece. -/
def feed (call : Invocation) (text : CountedText) (piece : String) : CountedText :=
  let counts := { text.counts with octets := text.counts.octets + piece.length }
  let octets := text.rest ++ piece.toList
  let rest := if call.isUtf8 then unfinished octets else []
  let whole := octets.take (octets.length - rest.length)
  (call.glyphs whole).foldl (step call.isUtf8) { text with counts, rest }

/-- The counts of a text that has come to its end. -/
def close (call : Invocation) (text : CountedText) : Counts :=
  ((call.glyphs text.rest).foldl (step call.isUtf8) text).endColumns.endWord.counts

end CountedText

/-- An input to be counted. -/
inductive CountedInput where
  /-- The input proper, which goes without a name. -/
  | standard
  | named (name : String)
  /-- A name that cannot be one, with what is said of it. -/
  | refused (complaint : String)

/-- The name of an input. -/
def CountedInput.name : CountedInput → String
  | .named name => name
  | _ => "-"

/-- How counts are shown. -/
structure CountManner where
  call : Invocation
  /-- The counts that are shown, by letter. -/
  chosen : List Char
  width : Nat

namespace CountManner

/-- A line of counts. -/
def line (manner : CountManner) (counts : Counts) (name : Option String) : String :=
  String.intercalate " " (manner.chosen.map fun letter =>
    right manner.width (toString (counts.number letter))) ++
    (match name with
    | some name =>
      " " ++ if name.contains '\n' then manner.call.quoteTitle name else name
    | none => "") ++ "\n"

/-- Counts inputs one after another; the sum of the counts is kept. -/
def count (manner : CountManner) (next : Progress Counts → Job) :
    Progress Counts → List CountedInput → Job
  | progress, [] => next progress
  | progress, input :: rest =>
    let call := manner.call
    let name := input.name
    let filter : Filter CountedText := { feed := fun text piece => (text.feed call piece, "") }
    let present (title : Option String) (progress : Progress Counts) (text : CountedText) : Job :=
      let counts := text.close call
      (progress.withState (progress.state.add counts)).putNow (manner.line counts title) fun progress =>
        count manner next progress rest
    let refuse (title : String) (fault : SystemFault) (next : Progress Counts → Job)
        (progress : Progress Counts) : Job :=
      let lacksInput := progress.lacksInput || (name == "-" && fault == .badDescriptor)
      { progress with failed := true, lacksInput }.warn call (title ++ ": " ++ fault.message) next
    -- What was counted before is kept aside while an input is read.
    let read (descriptor : Nat) (title : String) (shown : Option String) (close : Job → Job) : Job :=
      Filter.readOn call filter descriptor (fun read fault =>
          let after := { progress with
            held := read.held, size := read.size, unwritten := read.unwritten }
          close (match fault with
            | none => present shown after read.state
            | some fault =>
              refuse title fault (fun after => present shown after read.state) after))
        mostReads (progress.withState {})
    match input with
    | .refused complaint =>
      { progress with failed := true }.warn call complaint fun progress =>
        count manner next progress rest
    | .standard => read 0 (call.quoteName "standard input") none fun job => job
    | .named "-" => read 0 "-" (some "-") fun job => job
    | .named name =>
      .open name { reads := true } fun opened =>
        match opened with
        | .error fault =>
          refuse (call.quoteTitle name) fault (fun progress => count manner next progress rest)
            progress
        | .ok descriptor =>
          read descriptor (call.quoteTitle name) (some name) fun job => .close descriptor job

end CountManner

/-- The inputs that names stand for; `list` is the file they come from, if they come from one. -/
def countedInputs (call : Invocation) (list : Option String) (names : List String) :
    List CountedInput :=
  (names.zipIdx 1).map fun (name, place) =>
    if list = some "-" ∧ name = "-" then
      .refused ("when reading file names from stdin, no file name of " ++ call.quoteName name ++
        " allowed")
    else if name = "" then
      .refused ((match list with
        | some list => call.quoteTitle list ++ ":" ++ toString place ++ ": "
        | none => "") ++ "invalid zero-length file name")
    else .named name

/-- The width of counts: the digits of the sizes of all files together, and seven at least where one
of the inputs is no file. -/
def countWidth (disk : Disk) (stand : Standpoint) (standard : Option OpenFile)
    (inputs : List CountedInput) : Nat :=
  let sizeOf (file : DiskFile) : Option Nat := if file.isRegular then some file.size else none
  let atInput : Option (Option Nat) := standard.map fun opened =>
    match opened.channel with
    | .file number => (disk.find? number).bind sizeOf
    | _ => none
  let sizes : List (Option Nat) := inputs.filterMap fun input =>
    match input with
    | .refused _ => none
    | .standard | .named "-" => atInput
    | .named name =>
      match disk.inspect stand.directory name with
      | .ok (_, file) => some (sizeOf file)
      | .error _ => none
  let total := (sizes.filterMap fun size => size).foldl (· + ·) 0
  max (toString total).length (if sizes.any Option.isNone then 7 else 1)

/-- The program `wc`. -/
def wc : Utility := fun call =>
  let accepted : Accepted :=
    { letters := "clLmwφ:"
      names := [("bytes", 'c'), ("chars", 'm'), ("lines", 'l'), ("words", 'w'),
        ("files0-from", 'φ'), ("max-line-length", 'L')] }
  accepted.read call 1 fun arguments =>
    let given := ['l', 'w', 'm', 'c', 'L'].filter arguments.has
    let chosen := if given.isEmpty then ['l', 'w', 'c'] else given
    let run (inputs : List CountedInput) (width : Nat) : Job :=
      let manner : CountManner := ⟨call, chosen, width⟩
      -- The sum is told if there are several names, even of inputs that were left out.
      manner.count (fun progress =>
          progress.putNow (if inputs.length > 1 then manner.line progress.state (some "total") else "")
            (·.finish call))
        { state := {} } inputs
    let measured (inputs : List CountedInput) : Job :=
      if inputs.length = 1 ∧ chosen.length = 1 then run inputs 1
      else
        .look 0 fun standard =>
          .disk fun disk stand => (disk, run inputs (countWidth disk stand standard inputs))
    match arguments.value? 'φ', arguments.operands with
    | some _, operand :: _ =>
      Job.warn call ("extra operand " ++ call.quoteName operand)
        (Job.complain ("file operands cannot be combined with --files0-from\nTry '" ++ call.name ++
          " --help' for more information.\n") (.exit 1))
    | some list, [] =>
      Job.readInput list fun text =>
        match text with
        | .error fault =>
          Job.fail call ("cannot open " ++ call.quoteName list ++ " for reading: " ++ fault.message)
        | .ok text =>
          let names := text.splitOn "\x00"
          let names := if names.getLast? = some "" then names.dropLast else names
          let inputs := countedInputs call (some list) names
          if list = "-" then run inputs 1 else measured inputs
    | none, [] => measured [.standard]
    | none, names => measured (countedInputs call none names)

end Utility

end ArtifactLens.Shell
