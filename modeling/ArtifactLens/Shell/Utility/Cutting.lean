import ArtifactLens.Shell.Utility.Source

/-!
# Cutting lines and joining them

The program `cut` keeps parts of lines, which are named by the numbers of their octets or fields, and
`paste` puts lines side by side.
-/

namespace ArtifactLens.Shell

namespace Utility

/-! ### Lists of positions -/

/-- A range of positions, which may be open at its end. -/
structure Positions where
  first : Nat
  last : Option Nat

namespace Positions

/-- Why a list of positions cannot be used. -/
inductive Fault where
  /-- A range has more than one dash. -/
  | range
  | zero
  | noEnd
  | decreasing
  | tooLarge (digits : String)
  | stray (rest : String)

/-- The wording of a fault in a list of positions, which are those of fields or else of octets. -/
def Fault.message (quote : String → String) (areFields : Bool) : Fault → String
  | .range => if areFields then "invalid field range" else "invalid byte or character range"
  | .zero =>
    (if areFields then "fields" else "byte/character positions") ++ " are numbered from 1"
  | .noEnd => "invalid range with no endpoint: -"
  | .decreasing => "invalid decreasing range"
  | .tooLarge digits =>
    (if areFields then "field number " else "byte/character offset ") ++ quote digits ++
      " is too large"
  | .stray rest =>
    (if areFields then "invalid field value " else "invalid byte/character position ") ++ quote rest

/-- A range that is being read: what stands before the dash, if there is one, and the number after
it or alone. -/
structure Reading where
  before : Option (Option Nat) := none
  number : Option Nat := none

/-- The range that was read. -/
def Reading.range (reading : Reading) : Except Fault Positions :=
  match reading.before, reading.number with
  | none, none | none, some 0 => .error .zero
  | none, some n => .ok ⟨n, some n⟩
  | some none, none => .error .noEnd
  | some first, none => .ok ⟨first.getD 1, none⟩
  | some first, some last =>
    if last < first.getD 1 then .error .decreasing else .ok ⟨first.getD 1, some last⟩

/-- Reads ranges; `done` holds those read before, in reverse. -/
def readFrom (reading : Reading) (done : List Positions) :
    (measure : Nat) → List Char → Except Fault (List Positions)
  | 0, _ => .ok done.reverse
  | _ + 1, [] => do return (← reading.range) :: done |>.reverse
  | measure + 1, c :: rest => do
    if c = '-' then
      if reading.before.isSome then throw .range
      else if reading.number = some 0 then throw .zero
      else readFrom ⟨some reading.number, none⟩ done measure rest
    else if c = ',' ∨ c = ' ' ∨ c = '\t' then
      readFrom {} ((← reading.range) :: done) measure rest
    else if c.isDigit then
      let digits := (c :: rest).takeWhile Char.isDigit
      let n := Digit.numeral digits
      if n ≥ 2 ^ 64 - 1 then throw (.tooLarge (String.ofList digits))
      else readFrom { reading with number := some n } done measure ((c :: rest).drop digits.length)
    else throw (.stray (String.ofList (c :: rest)))

/-- Joins ranges that stand in order and have positions in common. -/
def merge : List Positions → List Positions
  | a :: b :: rest =>
    if a.last.all (b.first ≤ ·) then
      let last : Option Nat := a.last.bind fun x => b.last.map fun y => max x y
      merge (⟨a.first, last⟩ :: rest)
    else a :: merge (b :: rest)
  | ranges => ranges
  termination_by ranges => ranges.length

/-- Reads a list of ranges; those that come of it stand in order and apart from each other. -/
def parse (text : String) : Except Fault (List Positions) := do
  let ranges ← readFrom {} [] (text.length + 1) text.toList
  return merge (ranges.mergeSort fun a b => a.first ≤ b.first)

/-- The positions that are in none of some ranges from a position on. -/
def complement (start : Nat) : List Positions → List Positions
  | [] => [⟨start, none⟩]
  | range :: rest =>
    let gap : List Positions := if start < range.first then [⟨start, some (range.first - 1)⟩] else []
    match range.last with
    | none => gap
    | some last => gap ++ complement (last + 1) rest

/-- The position is in one of some ranges. -/
def isIn (ranges : List Positions) (position : Nat) : Bool :=
  ranges.any fun range => range.first ≤ position && range.last.all (position ≤ ·)

end Positions

/-! ### Cutting -/

/-- How lines are cut. -/
structure Cut where
  ranges : List Positions
  /-- What ends lines. -/
  mark : Char
  delimiter : Char
  /-- What stands between the parts that are kept, if it is told. -/
  joint : Option String
  onlyDelimited : Bool

namespace Cut

/-- The octets of a line that are kept. -/
def octets (cut : Cut) (line : Line) : String :=
  let (done, _, _) := line.text.toList.foldl (fun (done, position, goesOn) c =>
    if Positions.isIn cut.ranges position then
      let starts := cut.ranges.any (·.first == position)
      let done := match cut.joint with
        | some joint => if goesOn && starts then joint.toList.reverse ++ done else done
        | none => done
      (c :: done, position + 1, true)
    else (done, position + 1, goesOn)) (([] : List Char), (1 : Nat), false)
  (String.ofList done.reverse).push cut.mark

/-- The fields that are kept of some, put together. -/
def keep (cut : Cut) (fields : List String) : String :=
  String.intercalate (cut.joint.getD (String.singleton cut.delimiter))
    ((fields.zipIdx 1).filterMap fun (field, position) =>
      if Positions.isIn cut.ranges position then some field else none)

/-- The fields of a line that are kept. -/
def fields (cut : Cut) (line : Line) : String :=
  match line.text.splitOn (String.singleton cut.delimiter) with
  | [_] => if cut.onlyDelimited then "" else line.text.push cut.mark
  | pieces => (cut.keep pieces).push cut.mark

/-- What is kept of a whole input whose lines are its fields. The first field is looked at by itself
where it decides alone whether the input is put out, and then another one always follows it. -/
def lines (cut : Cut) (text : String) : String :=
  let mark := String.singleton cut.mark
  let pieces := text.splitOn mark
  let ended := pieces.length > 1 && pieces.getLast? == some ""
  let all := if ended then pieces.dropLast else pieces
  let takesFirst := Positions.isIn cut.ranges 1
  if text = "" then ""
  else if cut.onlyDelimited != takesFirst then
    let kept := cut.keep all
    if cut.onlyDelimited ∧ all.length = 1 then "" else kept ++ mark
  else if pieces.length = 1 then (if cut.onlyDelimited then "" else text ++ mark)
  else if all.length = 1 then (if takesFirst then all.headD "" else "") ++ mark
  else cut.keep all ++ mark

/-- The filter that cuts fields. -/
def fieldFilter (cut : Cut) : Filter (Unit × String) :=
  if cut.delimiter = cut.mark then
    { feed := fun (_, text) piece => (((), text ++ piece), "")
      close := fun (_, text) => (((), ""), cut.lines text) }
  else .ofLine cut.mark cut.fields

end Cut

/-- The program `cut`. -/
def cut : Utility := fun call =>
  let accepted : Accepted :=
    { letters := "b:c:d:f:nszω:κ"
      names := [("bytes", 'b'), ("characters", 'c'), ("fields", 'f'), ("delimiter", 'd'),
        ("only-delimited", 's'), ("output-delimiter", 'ω'), ("complement", 'κ'),
        ("zero-terminated", 'z')] }
  let refuse (text : String) : Job := Job.misuse call text
  -- The options themselves are wrong.
  let wrong? (seen : Bool) (option : Char × String) : Option String :=
    if ['b', 'c', 'f'].contains option.1 ∧ seen then some "only one list may be specified"
    else if option.1 = 'd' ∧ option.2.length > 1 then
      some "the delimiter must be a single character"
    else none
  let rec check (seen : Bool) (next : Job) : List (Char × String) → Job
    | [] => next
    | option :: rest =>
      match wrong? seen option with
      | some complaint => refuse complaint
      | none => check (seen || ['b', 'c', 'f'].contains option.1) next rest
  accepted.read call 1 (fun arguments => check false (
      match arguments.last? ['b', 'c', 'f'] with
      | none => refuse "you must specify a list of bytes, characters, or fields"
      | some (kind, list) =>
        let areFields := arguments.has 'f'
        if !areFields ∧ arguments.has 'd' then
          refuse "an input delimiter may be specified only when operating on fields"
        else if !areFields ∧ arguments.has 's' then
          refuse "suppressing non-delimited lines makes sense\n\tonly when operating on fields"
        else
          match Positions.parse list with
          | .error fault => refuse (fault.message call.quote (kind == 'f'))
          | .ok ranges =>
            -- No text stands for the octet zero.
            let given (text : String) : String := if text = "" then "\x00" else text
            let cut : Cut :=
              { ranges := if arguments.has 'κ' then Positions.complement 1 ranges else ranges
                mark := if arguments.has 'z' then '\x00' else '\n'
                delimiter := (((arguments.value? 'd').map given).getD "\t").toList.headD '\t'
                joint := (arguments.value? 'ω').map given
                onlyDelimited := arguments.has 's' }
            let filter := if areFields then cut.fieldFilter else .ofLine cut.mark cut.octets
            Filter.pass call filter ((), "") arguments.operands) arguments.options)
    fun arguments misuse => check false misuse arguments.options

/-! ### Pasting -/

/-- The delimiters that a list of them spells, of which some are nothing; none if a backslash ends
it. -/
def delimiters? : List Char → Option (List String)
  | [] => some []
  | '\\' :: [] => none
  | '\\' :: c :: rest =>
    let delimiter := match c with
      | '0' => ""
      | 'b' => "\x08"
      | 'f' => "\x0c"
      | 'n' => "\n"
      | 'r' => "\r"
      | 't' => "\t"
      | 'v' => "\x0b"
      | d => String.singleton d
    (delimiters? rest).map (delimiter :: ·)
  | c :: rest => (delimiters? rest).map (String.singleton c :: ·)

/-- A column of pasted lines. -/
structure PastedColumn where
  name : String
  descriptor : Nat
  isOpen : Bool := true

/-- The inputs that are pasted. The standard input may serve several columns. -/
structure Pasting where
  columns : Array PastedColumn
  sources : List Source

/-- How lines are pasted. -/
structure PasteManner where
  call : Invocation
  mark : Char
  delimiters : Array String

namespace PasteManner

/-- The delimiter that stands at a place; they go round. -/
def delimiter (manner : PasteManner) (place : Nat) : String :=
  (manner.delimiters[place % max 1 manner.delimiters.size]?).getD ""

/-- A row that is being put together: the delimiters that stand before what is put out next, and
whether some column has a line in it. -/
structure Row where
  saved : String := ""
  isFilled : Bool := false

/-- Pastes from a column on, row by row, until no column is open. -/
def paste (manner : PasteManner) : (measure : Nat) → (column : Nat) → Row → Progress Pasting → Job
  | 0, _, _, progress => progress.finish manner.call
  | measure + 1, index, row, progress =>
    let pasting := progress.state
    match pasting.columns[index]? with
    | none =>
      if pasting.columns.any (·.isOpen) then paste manner measure 0 {} progress
      else progress.finish manner.call
    | some column =>
      let isLast := index + 1 = pasting.columns.size
      -- The column has no line in this row.
      let skip (progress : Progress Pasting) : Job :=
        if isLast then
          progress.put (if row.isFilled then row.saved.push manner.mark else "") fun progress =>
            paste manner measure (index + 1) row progress
        else
          paste manner measure (index + 1)
            { row with saved := row.saved ++ manner.delimiter index } progress
      if pasting.columns.all (!·.isOpen) then progress.finish manner.call
      else if !column.isOpen then skip progress
      else
        match pasting.sources.find? (·.descriptor == column.descriptor) with
        | none => skip progress
        | some source => source.nextLine manner.mark fun line source =>
          let sources := pasting.sources.map fun other =>
            if other.descriptor = source.descriptor then source else other
          match line with
          | some line =>
            let progress := progress.withState { pasting with sources }
            let ending := if isLast then String.singleton manner.mark else manner.delimiter index
            progress.put (row.saved ++ line.text ++ ending) fun progress =>
              paste manner measure (index + 1) ⟨"", true⟩ progress
          | none =>
            let columns := pasting.columns.modify index ({ · with isOpen := false })
            let progress := progress.withState { pasting with columns, sources }
            let progress := { progress with
              failed := progress.failed || source.fault.isSome
              lacksInput := progress.lacksInput ||
                (column.name == "-" && source.fault == some SystemFault.badDescriptor) }
            match source.fault with
            | some fault =>
              progress.warn manner.call (Filter.refusal manner.call column.name fault) skip
            | none => skip progress

/-- Opens the inputs of columns and pastes them. -/
def opening (manner : PasteManner) (columns : List PastedColumn) : List String → Job
  | [] =>
    let columns := columns.reverse
    let numbers := (columns.map (·.descriptor)).eraseDups
    if columns.any fun column => column.descriptor = 0 ∧ column.name ≠ "-" then
      if columns.any (·.name == "-") then Job.fail manner.call "standard input is closed"
      else manner.paste mostReads 0 {}
        { state := ⟨columns.toArray, numbers.map fun descriptor => { descriptor }⟩ }
    else manner.paste mostReads 0 {}
      { state := ⟨columns.toArray, numbers.map fun descriptor => { descriptor }⟩ }
  | "-" :: rest => opening manner (⟨"-", 0, true⟩ :: columns) rest
  | name :: rest =>
    .open name { reads := true } fun opened =>
      match opened with
      | .error fault => Job.fail manner.call (Filter.refusal manner.call name fault)
      | .ok descriptor => opening manner (⟨name, descriptor, true⟩ :: columns) rest

/-- What is known of an input whose lines are pasted in one: the delimiters that were used, and
whether the last octet ended a line. -/
structure Serial where
  used : Nat := 0
  isAtEnd : Bool := false

/-- The filter that makes one line of each input. -/
def serial (manner : PasteManner) : Filter Serial where
  feed := fun state piece =>
    let (state, done) := piece.toList.foldl (fun (state, done) c =>
      let (state, done) : Serial × List Char := if state.isAtEnd then
          ({ state with used := state.used + 1 },
            (manner.delimiter state.used).toList.reverse ++ done)
        else (state, done)
      if c = manner.mark then ({ state with isAtEnd := true }, done)
      else ({ state with isAtEnd := false }, c :: done)) (state, ([] : List Char))
    (state, String.ofList done.reverse)
  close := fun _ => ({}, String.singleton manner.mark)

end PasteManner

/-- The program `paste`. -/
def paste : Utility := fun call =>
  let accepted : Accepted :=
    { letters := "d:sz"
      names := [("serial", 's'), ("delimiters", 'd'), ("zero-terminated", 'z')] }
  accepted.read call 1 fun arguments =>
    let list := (arguments.value? 'd').getD "\t"
    match delimiters? (if list = "" then "\\0" else list).toList with
    | none =>
      Job.fail call ("delimiter list ends with an unescaped backslash: " ++ call.quotePlain list)
    | some delimiters =>
      let manner : PasteManner :=
        { call, mark := if arguments.has 'z' then '\x00' else '\n'
          delimiters := delimiters.toArray }
      let names := if arguments.operands.isEmpty then ["-"] else arguments.operands
      if arguments.has 's' then Filter.pass call manner.serial {} names
      else manner.opening [] names

end Utility

end ArtifactLens.Shell
