import ArtifactLens.Shell.Utility.Filtering

/-!
# Columns of a display

Programs that mind the columns of lines: `fold` breaks lines that are too wide, `expand` writes tabs
as blanks, and `unexpand` blanks as tabs. A backspace goes one column back.
-/

namespace ArtifactLens.Shell

namespace Utility

/-- The character is a blank or a tab. -/
def isBlankOrTab (c : Char) : Bool := c == ' ' || c == '\t'

/-! ### Folding -/

/-- The column after a character. -/
def columnAfter (octets : Bool) (column : Nat) (c : Char) : Nat :=
  if octets then column + 1
  else
    match c with
    | '\x08' => column - 1
    | '\r' => 0
    | '\t' => column + 8 - column % 8
    | _ => column + 1

/-- How lines are folded. -/
structure Folding where
  width : Nat
  /-- Octets are counted. -/
  octets : Bool
  /-- Lines are broken behind blanks, where there are some. -/
  atBlanks : Bool

/-- The line that is being folded: what is kept of it, in reverse, and the column it has come to. -/
structure FoldedLine where
  kept : List Char := []
  column : Nat := 0

namespace Folding

/-- Adds a character to a line; the pieces that come off are added to `done`, in reverse. -/
def add (folding : Folding) (c : Char) : (measure : Nat) → FoldedLine → List String →
    FoldedLine × List String
  | 0, line, done => ({ line with kept := c :: line.kept }, done)
  | measure + 1, line, done =>
    let column := columnAfter folding.octets line.column c
    if column ≤ folding.width then (⟨c :: line.kept, column⟩, done)
    else
      let tail := line.kept.takeWhile (!isBlankOrTab ·)
      let head := line.kept.drop tail.length
      if folding.atBlanks ∧ !head.isEmpty then
        let column := tail.reverse.foldl (columnAfter folding.octets) 0
        add folding c measure ⟨tail, column⟩ (String.ofList ('\n' :: head).reverse :: done)
      else if line.kept.isEmpty then (⟨[c], column⟩, done)
      else
        add folding c measure {} (String.ofList ('\n' :: line.kept).reverse :: done)

/-- The filter that folds lines. -/
def filter (folding : Folding) : Filter FoldedLine where
  feed := fun line piece =>
    let (line, done) := piece.toList.foldl (fun (line, done) c =>
      if c = '\n' then (({} : FoldedLine), String.ofList ('\n' :: line.kept).reverse :: done)
      else folding.add c (line.kept.length + 2) line done) (line, ([] : List String))
    (line, String.join done.reverse)
  close := fun line => ({}, String.ofList line.kept.reverse)

end Folding

/-- The options that are digits, each with what follows it. -/
def digitLetters : String := "0123456789"

/-- The program `fold`. -/
def fold : Utility := fun call =>
  let accepted : Accepted :=
    { letters := "bsw:" ++ digitLetters, attached := digitLetters
      names := [("bytes", 'b'), ("spaces", 's'), ("width", 'w')] }
  -- Every width that is given has to be right.
  let rec widths (width : Nat) (next : Nat → Job) : List (Char × String) → Job
    | [] => next width
    | (letter, text) :: rest =>
      let given := if letter = 'w' then some text
        else if letter.isDigit then some (String.singleton letter ++ text) else none
      match given with
      | none => widths width next rest
      | some text =>
        Amount.take call "" 1 (2 ^ 64 - 10) "invalid number of columns" text fun width =>
          widths width next rest
  accepted.read call 1 (fun arguments =>
      widths 80 (fun width =>
        Filter.pass call
          (Folding.filter ⟨width, arguments.has 'b', arguments.has 's'⟩) {} arguments.operands)
        arguments.options)
    fun arguments misuse => widths 80 (fun _ => misuse) arguments.options

/-! ### Tabs -/

/-- Where tabs stop: at some columns, and after the last of them at multiples of a width, or at
multiples of a width from there; a width of zero stands for none. -/
structure TabStops where
  columns : List Nat := []
  multiples : Nat := 0
  distance : Nat := 0

namespace TabStops

/-- The stops are those of one width alone. -/
def width? (stops : TabStops) : Option Nat :=
  match stops.columns with
  | [] =>
    some (if stops.multiples > 0 then stops.multiples
      else if stops.distance > 0 then stops.distance else 8)
  | [width] => if stops.multiples = 0 ∧ stops.distance = 0 then some width else none
  | _ => none

/-- The next stop after a column, if there is one. -/
def next? (stops : TabStops) (column : Nat) : Option Nat :=
  match stops.width? with
  | some width => some (column + (width - column % width))
  | none =>
    match stops.columns.find? (column < ·) with
    | some stop => some stop
    | none =>
      if stops.multiples > 0 then some (column + (stops.multiples - column % stops.multiples))
      else if stops.distance > 0 then
        let last := stops.columns.getLastD 0
        some (column + (stops.distance - (column - last) % stops.distance))
      else none

/-- How a number in a list of stops is meant. -/
inductive Meaning where
  | column
  | multiples
  | distance

/-- A list of stops that is being read: the number in hand, and what is complained, in reverse. -/
structure Reading where
  stops : TabStops
  number : Option Nat := none
  meaning : Meaning := .column
  complaints : List String := []

/-- Takes the number in hand as a stop; tells whether it can be one. -/
def Reading.take (reading : Reading) : Reading × Bool :=
  match reading.number with
  | none => (reading, true)
  | some n =>
    let stops := reading.stops
    let refuse (sign : String) (stops : TabStops) : Reading × Bool :=
      ({ reading with
        stops, number := none
        complaints := ("'" ++ sign ++ "' specifier only allowed with the last value") ::
          reading.complaints }, false)
    let accept (stops : TabStops) : Reading × Bool := ({ reading with stops, number := none }, true)
    match reading.meaning with
    | .column => accept { stops with columns := stops.columns ++ [n] }
    | .multiples =>
      let changed := { stops with multiples := n }
      if stops.multiples > 0 then refuse "/" changed else accept changed
    | .distance =>
      let changed := { stops with distance := n }
      if stops.distance > 0 then refuse "+" changed else accept changed

/-- Reads a list of stops. -/
def Reading.run (call : Invocation) (reading : Reading) : (measure : Nat) → List Char → Reading
  | 0, _ => reading
  | _ + 1, [] => if reading.complaints.isEmpty then reading.take.1 else reading
  | measure + 1, c :: rest =>
    let complain (text : String) : Reading :=
      { reading with complaints := text :: reading.complaints }
    let sign (meaning : Meaning) : Reading :=
      let reading := if reading.number.isSome then
          complain ("'" ++ String.singleton c ++ "' specifier not at start of number: " ++
            call.quote (String.ofList (c :: rest)))
        else reading
      { reading with meaning }
    if c = ',' ∨ isBlankOrTab c then
      let (reading, isRight) := reading.take
      if isRight then run call reading measure rest else reading
    else if c = '/' then run call (sign .multiples) measure rest
    else if c = '+' then run call (sign .distance) measure rest
    else if c.isDigit then
      let digits := (c :: rest).takeWhile Char.isDigit
      let after := (c :: rest).drop digits.length
      let n := Digit.numeral ((toString (reading.number.getD 0)).toList ++ digits)
      if n ≥ 2 ^ 64 then
        run call { complain ("tab stop is too large " ++ call.quote (String.ofList digits)) with
          number := some 0 } measure after
      else run call { reading with number := some n } measure after
    else
      complain ("tab size contains invalid character(s): " ++
        call.quote (String.ofList (c :: rest)))

/-- Adds a list of stops, or tells what is wrong with it. -/
def add (call : Invocation) (stops : TabStops) (text : String) : Except (List String) TabStops :=
  let reading := Reading.run call { stops } (text.length + 1) text.toList
  if reading.complaints.isEmpty then .ok reading.stops else .error reading.complaints.reverse

/-- What keeps stops from being used. -/
def complaint? (stops : TabStops) : Option String :=
  let rec check (before : Nat) : List Nat → Option String
    | [] => none
    | n :: rest =>
      if n = 0 then some "tab size cannot be 0"
      else if n ≤ before then some "tab sizes must be ascending"
      else check n rest
  match check 0 stops.columns with
  | some complaint => some complaint
  | none =>
    if stops.multiples > 0 ∧ stops.distance > 0 then
      some "'/' specifier is mutually exclusive with '+'"
    else none

/-- Goes on with stops that can be used. -/
def use (call : Invocation) (stops : TabStops) (next : TabStops → Job) : Job :=
  match stops.complaint? with
  | some complaint => Job.fail call complaint
  | none => next stops

/-- Goes on with stops and a list that is added. -/
def gather (call : Invocation) (stops : TabStops) (text : String) (next : TabStops → Job) : Job :=
  match stops.add call text with
  | .ok stops => next stops
  | .error complaints =>
    complaints.foldr (fun complaint next => Job.warn call complaint next) (.exit 1)

end TabStops

/-- Where a line stands whose tabs are expanded. -/
structure ExpandedLine where
  column : Nat := 0
  /-- Tabs are still expanded. -/
  converts : Bool := true

/-- Expands the tabs of a character, in reverse in front of `done`. -/
def expandChar (stops : TabStops) (onlyLeading : Bool) (line : ExpandedLine) (done : List Char)
    (c : Char) : ExpandedLine × List Char :=
  if c = '\n' then ({}, c :: done)
  else if !line.converts then (line, c :: done)
  else
    let converts := !onlyLeading || isBlankOrTab c
    match c with
    | '\t' =>
      let next := (stops.next? line.column).getD (line.column + 1)
      (⟨next, converts⟩, List.replicate (next - line.column) ' ' ++ done)
    | '\x08' => (⟨line.column - 1, converts⟩, c :: done)
    | _ => (⟨line.column + 1, converts⟩, c :: done)

/-- The program `expand`. -/
def expand : Utility := fun call =>
  let accepted : Accepted :=
    { letters := "it:" ++ digitLetters, attached := digitLetters
      names := [("tabs", 't'), ("initial", 'i')] }
  let rec gather (stops : TabStops) (next : TabStops → Job) : List (Char × String) → Job
    | [] => next stops
    | (letter, text) :: rest =>
      let goOn (text : String) : Job := stops.gather call text fun stops => gather stops next rest
      if letter = 't' then goOn text
      else if letter.isDigit then goOn (String.singleton letter ++ text)
      else gather stops next rest
  accepted.read call 1 (fun arguments =>
      gather {} (fun stops => stops.use call fun stops =>
        let filter : Filter ExpandedLine :=
          { feed := fun line piece =>
              let (line, done) := piece.toList.foldl (fun (line, done) c =>
                expandChar stops (arguments.has 'i') line done c) (line, ([] : List Char))
              (line, String.ofList done.reverse) }
        Filter.pass call filter {} arguments.operands) arguments.options)
    fun arguments misuse => gather {} (fun _ => misuse) arguments.options

/-- Where a line stands whose blanks are turned into tabs. -/
structure UnexpandedLine where
  column : Nat := 0
  /-- Blanks are still turned into tabs. -/
  converts : Bool := true
  /-- The last character was a blank; so are those in front of the line taken to be. -/
  afterBlank : Bool := true
  /-- A lone blank stands just before a stop. -/
  hasLone : Bool := false
  /-- Blanks that may become tabs, in reverse. -/
  pending : List Char := []

namespace UnexpandedLine

/-- The blanks that are pending, in reverse, as they are put out. -/
def settled (line : UnexpandedLine) : List Char :=
  if line.hasLone ∧ line.pending.length > 1 then line.pending.dropLast ++ ['\t'] else line.pending

/-- Puts a character out after the blanks that are pending. -/
def emit (line : UnexpandedLine) (all : Bool) (done : List Char) (isBlank : Bool) (c : Char) :
    UnexpandedLine × List Char :=
  ({ line with
      pending := [], hasLone := line.hasLone && line.pending.isEmpty, afterBlank := isBlank
      converts := line.converts && (all || isBlank) },
    c :: (line.settled ++ done))

/-- Goes on by a character; what is put out stands in reverse in front of `done`. With `all`
blanks are turned into tabs in the whole line. -/
def step (stops : TabStops) (all : Bool) (line : UnexpandedLine) (done : List Char) (c : Char) :
    UnexpandedLine × List Char :=
  let (line, done) : UnexpandedLine × List Char :=
    if !line.converts then (line, c :: done)
    else if isBlankOrTab c then
      match stops.next? line.column with
      | none => { line with converts := false }.emit all done true c
      | some stop =>
        -- A blank just before the stop before stays, if it was alone; the rest is one tab.
        let asTab : List Char := if line.hasLone then ['\t'] else []
        if c = '\t' then
          { line with column := stop, pending := asTab }.emit all done true '\t'
        else if line.afterBlank ∧ line.column + 1 = stop then
          { line with column := stop, pending := asTab }.emit all done true '\t'
        else
          ({ line with
            column := line.column + 1, hasLone := line.hasLone || line.column + 1 = stop
            pending := c :: line.pending, afterBlank := true }, done)
    else if c = '\x08' then { line with column := line.column - 1 }.emit all done false c
    else { line with column := line.column + 1 }.emit all done false c
  if c = '\n' then ({}, done) else (line, done)

end UnexpandedLine

/-- The program `unexpand`. -/
def unexpand : Utility := fun call =>
  let accepted : Accepted :=
    { letters := ",0123456789at:φ"
      names := [("tabs", 't'), ("all", 'a'), ("first-only", 'φ')] }
  -- Digits that are options make a number together, up to a comma.
  let rec gather (stops : TabStops) (number : Option Nat) (next : TabStops → Job) :
      List (Char × String) → Job
    | [] =>
      next (match number with
        | some n => { stops with columns := stops.columns ++ [n] }
        | none => stops)
    | (letter, text) :: rest =>
      if letter = 't' then stops.gather call text fun stops => gather stops number next rest
      else if letter = ',' then
        match number with
        | some n => gather { stops with columns := stops.columns ++ [n] } none next rest
        | none => gather stops none next rest
      else if letter.isDigit then
        let n := 10 * number.getD 0 + (letter.toNat - '0'.toNat)
        if n ≥ 2 ^ 64 then Job.fail call "tab stop value is too large"
        else gather stops (some n) next rest
      else gather stops number next rest
  accepted.read call 1 (fun arguments =>
      gather {} none (fun stops => stops.use call fun stops =>
        let all := (arguments.has 'a' || arguments.has 't') && !arguments.has 'φ'
        let filter : Filter UnexpandedLine :=
          { feed := fun line piece =>
              let (line, done) := piece.toList.foldl (fun (line, done) c =>
                line.step stops all done c) (line, ([] : List Char))
              (line, String.ofList done.reverse) }
        let names := if arguments.operands.isEmpty then ["-"] else arguments.operands
        Filter.run call filter (Filter.refusal call) (fun progress =>
          progress.put (String.ofList progress.state.settled.reverse) (·.finish call)) { state := {} }
          names) arguments.options)
    fun arguments misuse => gather {} none (fun _ => misuse) arguments.options

end Utility

end ArtifactLens.Shell
