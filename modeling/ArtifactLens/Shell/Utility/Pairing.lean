import ArtifactLens.Shell.Utility.Sorting.Value
import ArtifactLens.Shell.Utility.Source

/-!
# Two inputs in order

The programs `comm` and `join` read two inputs line by line whose lines are in order, so that those which
belong together are met at the same time. `comm` tells which lines stand in one input only and which in
both; `join` puts lines together that have a field in common.
-/

namespace ArtifactLens.Shell

namespace Utility

/-! ### Inputs -/

/-- One of two inputs. -/
inductive Side where
  | first
  | second
  deriving DecidableEq

/-- The number of an input. -/
def Side.number : Side → Nat
  | .first => 1
  | .second => 2

/-- Something for each of two inputs. -/
structure Sides (α : Type) where
  first : α
  second : α

namespace Sides

variable {α : Type}

/-- What there is for an input. -/
def get (sides : Sides α) : Side → α
  | .first => sides.first
  | .second => sides.second

/-- Sets what there is for an input. -/
def set (sides : Sides α) (side : Side) (value : α) : Sides α :=
  match side with
  | .first => { sides with first := value }
  | .second => { sides with second := value }

end Sides

/-- When lines that are out of order are complained about. -/
inductive OrderCheck where
  | never
  /-- Once a line without a partner was seen. -/
  | unpaired
  /-- At once, and nothing more is done. -/
  | always
  deriving DecidableEq

/-- Opens an input, which may be the input proper. -/
def openSource (call : Invocation) (name : String) (next : Source → Job) : Job :=
  if name = "-" then next { descriptor := 0 }
  else
    .open name { reads := true } fun opened =>
      match opened with
      | .ok descriptor => next { descriptor }
      | .error fault => Job.fail call (call.quoteTitle name ++ ": " ++ fault.message)

/-- Takes exactly two operands. -/
def twoOperands (call : Invocation) (operands : List String) (next : Sides String → Job) : Job :=
  match operands with
  | [] => Job.misuse call "missing operand"
  | [only] => Job.misuse call ("missing operand after " ++ call.quote only)
  | [first, second] => next ⟨first, second⟩
  | _ :: _ :: extra :: _ => Job.misuse call ("extra operand " ++ call.quote extra)

/-! ### Lines in common -/

/-- How two inputs are compared. -/
structure Comparison where
  names : Sides String
  /-- What the lines of each column follow, where the column is shown: those that stand in the first
  input only, in the second one only, and in both. -/
  columns : List (Option String)
  delimiter : String
  mark : Char
  check : OrderCheck
  tellsTotals : Bool

/-- How far two inputs have been compared. -/
structure Compared where
  sources : Sides Source
  /-- The lines at hand. -/
  lines : Sides (Option String) := ⟨none, none⟩
  /-- The lines before them. -/
  before : Sides (Option String) := ⟨none, none⟩
  disordered : Sides Bool := ⟨false, false⟩
  hasUnpaired : Bool := false
  /-- How many lines each column has. -/
  totals : List Nat := [0, 0, 0]

namespace Comparison

/-- The input from which the lines of an input come: the input proper can be read for both. -/
def sourceOf (comparison : Comparison) (side : Side) : Side :=
  if comparison.names.first = "-" ∧ comparison.names.second = "-" then .first else side

/-- Looks whether two lines of an input stand in order. -/
def look (call : Invocation) (comparison : Comparison) (side : Side) (before after : Option String)
    (progress : Progress Compared) (next : Progress Compared → Job) : Job :=
  let state := progress.state
  let looks := match comparison.check with
    | .never => false
    | .unpaired => state.hasUnpaired
    | .always => true
  match before, after with
  | some a, some b =>
    if looks && !state.disordered.get side && compareTexts a.toList b.toList == .gt then
      let complaint := "file " ++ toString side.number ++ " is not in sorted order"
      if comparison.check = .always then progress.fail call complaint
      else
        let state := { state with disordered := state.disordered.set side true }
        ({ progress with state }).warn call complaint next
    else next progress
  | _, _ => next progress

/-- Goes on by a line in an input. -/
def advance (call : Invocation) (comparison : Comparison) (side : Side)
    (progress : Progress Compared) (next : Progress Compared → Job) : Job :=
  let state := progress.state
  let origin := comparison.sourceOf side
  (state.sources.get origin).nextLine comparison.mark fun line source =>
    let last := state.lines.get side
    let earlier := state.before.get side
    let line := line.map (·.text)
    let state := { state with
      sources := state.sources.set origin source
      lines := state.lines.set side line
      before := state.before.set side last }
    let goOn (progress : Progress Compared) : Job :=
      match source.fault, line with
      | some fault, none =>
        progress.fail call (call.quoteTitle (comparison.names.get side) ++ ": " ++ fault.message)
      | _, _ => next progress
    let progress := { progress with state }
    -- At the end the last two lines are looked at once more.
    if line.isSome then look call comparison side last line progress goOn
    else look call comparison side earlier last progress goOn

/-- What is told at the end. -/
def totals (comparison : Comparison) (state : Compared) : String :=
  (String.intercalate comparison.delimiter (state.totals.map toString ++ ["total"])).push
    comparison.mark

/-- Tells what was found, and ends. -/
def finish (call : Invocation) (comparison : Comparison) (progress : Progress Compared) : Job :=
  -- What was read for both inputs cannot be closed for both.
  if comparison.names.first = "-" ∧ comparison.names.second = "-" then
    progress.fail call ("-: " ++ SystemFault.badDescriptor.message)
  else
    let state := progress.state
    let told := if comparison.tellsTotals then comparison.totals state else ""
    progress.put told fun progress =>
      if state.disordered.first || state.disordered.second then
        progress.fail call "input is not in sorted order"
      else progress.exit call 0

/-- Compares lines until both inputs are over. -/
def run (call : Invocation) (comparison : Comparison) : (measure : Nat) → Progress Compared → Job
  | 0, progress => progress.exit call 0
  | measure + 1, progress =>
    let state := progress.state
    let put (column : Nat) (line : String) (hasUnpaired : Bool)
        (next : Progress Compared → Job) : Job :=
      let state := { state with
        hasUnpaired := state.hasUnpaired || hasUnpaired
        totals := state.totals.modify column (· + 1) }
      let text := match comparison.columns.getD column none with
        | some start => start ++ line.push comparison.mark
        | none => ""
      ({ progress with state }).put text next
    let step (side : Side) (next : Progress Compared → Job) (progress : Progress Compared) : Job :=
      advance call comparison side progress next
    let goOn := run call comparison measure
    match state.lines.first, state.lines.second with
    | none, none => finish call comparison progress
    | some a, none => put 0 a true (step .first goOn)
    | none, some b => put 1 b true (step .second goOn)
    | some a, some b =>
      match compareTexts a.toList b.toList with
      | .lt => put 0 a true (step .first goOn)
      | .gt => put 1 b true (step .second goOn)
      | .eq => put 2 b false (step .first (step .second goOn))

/-- Compares two inputs. -/
def start (call : Invocation) (comparison : Comparison) : Job :=
  let unchecked := { comparison with check := .never }
  openSource call comparison.names.first fun first =>
    let state : Compared := { sources := ⟨first, { descriptor := 0 }⟩ }
    advance call unchecked .first { state } fun progress =>
      openSource call comparison.names.second fun second =>
        let state := progress.state
        let state := { state with sources := { state.sources with second } }
        advance call unchecked .second { progress with state } (run call comparison (2 * mostReads))

end Comparison

/-- The program `comm`. -/
def comm : Utility := fun call =>
  let accepted : Accepted :=
    { letters := "123zω:νχτ"
      names := [("check-order", 'χ'), ("nocheck-order", 'ν'), ("output-delimiter", 'ω'),
        ("total", 'τ'), ("zero-terminated", 'z')] }
  let clashes (arguments : Arguments) : Bool :=
    let delimiters := arguments.values 'ω'
    delimiters.any (some · != delimiters.head?)
  let refusal : Job := Job.fail call "multiple output delimiters specified"
  accepted.read call 1 (fun arguments =>
    if clashes arguments then refusal
    else
      twoOperands call arguments.operands fun names =>
        let delimiter := match arguments.value? 'ω' with
          | none => "\t"
          | some "" => "\x00"
          | some text => text
        let shows (column : Nat) : Bool := !arguments.has (Char.ofNat ('1'.toNat + column))
        let columns := [0, 1, 2].map fun column =>
          if shows column then
            some (String.join (((List.range column).filter shows).map fun _ => delimiter))
          else none
        let check : OrderCheck := match arguments.last? ['ν', 'χ'] with
          | some ('ν', _) => .never
          | some _ => .always
          | none => .unpaired
        let comparison : Comparison :=
          { names, columns, delimiter, check, tellsTotals := arguments.has 'τ'
            mark := if arguments.has 'z' then '\x00' else '\n' }
        comparison.start call)
    fun arguments job => if clashes arguments then refusal else job

/-! ### Options of joining -/

/-- A field to be put out: the common one, or one of an input by its number, from zero on. -/
inductive JoinedField where
  | common
  | of (side : Side) (field : Nat)

/-- How two inputs are joined. -/
structure Joining where
  fields : Sides (Option Nat) := ⟨none, none⟩
  /-- Lines without a partner are put out for these inputs. -/
  showsUnpaired : Sides Bool := ⟨false, false⟩
  showsPaired : Bool := true
  /-- What stands for fields that are empty or missing. -/
  filler : Option String := none
  foldsCase : Bool := false
  format : List JoinedField := []
  /-- Lines have as many fields as the first one of their input. -/
  isFixed : Bool := false
  /-- What separates fields; a newline makes one field of each line. -/
  separator : Option Char := none
  mark : Char := '\n'
  check : OrderCheck := .unpaired
  hasHeader : Bool := false
  /-- The inputs, and whether each may belong to the fields to be put out instead. -/
  names : List (String × Bool) := []
  /-- What came last told fields to be put out. -/
  tellsFields : Bool := false

namespace Joining

/-- Refuses options. -/
def refuse {α : Type} (call : Invocation) (text : String) : Except Job α :=
  .error (Job.fail call text)

/-- The number of a field, from zero on. -/
def field (call : Invocation) (text : String) : Except Job Nat :=
  match SortKey.number? text.toList with
  | some (n, []) =>
    if n = 0 then refuse call ("invalid field number: " ++ call.quote text) else .ok (n - 1)
  | _ => refuse call ("invalid field number: " ++ call.quote text)

/-- Sets the field by which an input is joined. -/
def withField (call : Invocation) (side : Side) (field : Nat) (joining : Joining) :
    Except Job Joining :=
  match (joining.fields.get side).filter (· != field) with
  | some before =>
    refuse call ("incompatible join fields " ++ toString (before + 1) ++ ", " ++ toString (field + 1))
  | none => .ok { joining with fields := joining.fields.set side (some field) }

/-- Reads a field to be put out. -/
def joinedField (call : Invocation) (text : String) : Except Job JoinedField :=
  let malformed {α : Type} : Except Job α :=
    refuse call ("invalid field specifier: " ++ call.quote text)
  let ofSide (side : Side) (rest : List Char) : Except Job JoinedField :=
    match rest with
    | '.' :: number => return .of side (← field call (String.ofList number))
    | _ => malformed
  match text.toList with
  | ['0'] => .ok .common
  | '0' :: _ => malformed
  | '1' :: rest => ofSide .first rest
  | '2' :: rest => ofSide .second rest
  | _ => refuse call ("invalid file number in field spec: " ++ call.quote text)

/-- Adds a list of fields to be put out. -/
def withFormat (call : Invocation) (text : String) (joining : Joining) : Except Job Joining := do
  let pieces := (text.split fun c => c == ',' || c == ' ' || c == '\t').toList.map (·.toString)
  return { joining with format := joining.format ++ (← pieces.mapM (joinedField call)) }

/-- Takes another argument: the name of an input, unless two names stand for fields to be put out
or are enough. -/
def withName (call : Invocation) (mayTell : Bool) (name : String) (joining : Joining) :
    Except Job Joining := do
  match joining.names with
  | [(first, firstTells), (second, secondTells)] =>
    if firstTells then
      let joining ← withFormat call first joining
      return { joining with names := [(second, secondTells), (name, mayTell)] }
    else if secondTells then
      let joining ← withFormat call second joining
      return { joining with names := [(first, firstTells), (name, mayTell)] }
    else .error (Job.misuse call ("extra operand " ++ call.quoteName name))
  | names => return { joining with names := names ++ [(name, mayTell)] }

/-- The letter of other arguments among the options. -/
def operandLetter : Char := '•'

/-- Takes an option. -/
def add (call : Invocation) (joining : Joining) (option : Char × String) : Except Job Joining := do
  let (letter, text) := option
  let mayTell := joining.tellsFields
  let joining := { joining with tellsFields := false }
  match letter with
  | 'a' | 'v' =>
    let joining := { joining with showsPaired := joining.showsPaired && letter != 'v' }
    match SortKey.number? text.toList with
    | some (1, []) => return { joining with showsUnpaired := joining.showsUnpaired.set .first true }
    | some (2, []) => return { joining with showsUnpaired := joining.showsUnpaired.set .second true }
    | _ => refuse call ("invalid field number: " ++ call.quote text)
  | 'e' =>
    if joining.filler.any (· != text) then refuse call "conflicting empty-field replacement strings"
    return { joining with filler := some text }
  | 'i' => return { joining with foldsCase := true }
  | '1' => withField call .first (← field call text) joining
  | '2' => withField call .second (← field call text) joining
  | 'j' =>
    let field ← field call text
    let joining ← withField call .first field joining
    withField call .second field joining
  | 'o' =>
    if text = "auto" then return { joining with isFixed := true }
    else return { (← withFormat call text joining) with tellsFields := true }
  | 't' =>
    let take (mark : Char) : Except Job Joining :=
      if joining.separator.any (· != mark) then refuse call "incompatible tabs"
      else .ok { joining with separator := some mark }
    match text.toList with
    | [] => take '\n'
    | [mark] => take mark
    | _ =>
      if text = "\\0" then take '\x00' else refuse call ("multi-character tab " ++ call.quote text)
  | 'z' => return { joining with mark := '\x00' }
  | 'ν' => return { joining with check := .never }
  | 'χ' => return { joining with check := .always }
  | 'η' => return { joining with hasHeader := true }
  | letter =>
    if letter = operandLetter then
      return { (← withName call mayTell text joining) with tellsFields := mayTell }
    else return joining

/-- The options of the program. -/
def accepted : Accepted where
  letters := "a:e:i1:2:j:o:t:v:zχνη"
  operandLetter := some operandLetter
  names := [("ignore-case", 'i'), ("check-order", 'χ'), ("nocheck-order", 'ν'),
    ("zero-terminated", 'z'), ("header", 'η')]

/-- The options of a call. -/
def ofArguments (call : Invocation) (arguments : Arguments) : Except Job Joining := do
  let joining ← arguments.options.foldlM (add call) {}
  -- Those behind a double dash are names in any case.
  let early := arguments.options.countP (·.1 == operandLetter)
  (arguments.operands.drop early).foldlM (fun joining name => withName call false name joining) joining

/-! ### Joining lines -/

/-- The field by which an input is joined. -/
def keyField (joining : Joining) (side : Side) : Nat := (joining.fields.get side).getD 0

/-- The fields of a line. -/
def fieldsOf (joining : Joining) (line : String) : List String :=
  if line = "" then []
  else
    match joining.separator with
    | some '\n' => [line]
    | some mark => line.splitOn (String.singleton mark)
    | none =>
      let body := (line.toList.dropWhile isFieldGap)
      if body.isEmpty then []
      else
        -- Blanks at the end of a line are followed by a field that is empty.
        let words := ((String.ofList body).split isFieldGap).toList.map (·.toString)
        let last := if body.getLast?.any isFieldGap then [""] else []
        words.filter (· != "") ++ last

/-- A line with its fields. -/
structure Row where
  text : String
  fields : List String

/-- The key of a line. -/
def key (joining : Joining) (side : Side) (row : Row) : List Char :=
  let text := (row.fields.getD (joining.keyField side) "").toList
  if joining.foldsCase then text.map Char.toUpper else text

/-- Compares the keys of two lines, which may come from one input. -/
def compareRows (joining : Joining) (sideA : Side) (a : Row) (sideB : Side) (b : Row) : Ordering :=
  compareTexts (joining.key sideA a) (joining.key sideB b)

/-- A field as it is put out. -/
def shown (joining : Joining) (row : Option Row) (field : Nat) : String :=
  let text := ((row.bind fun row => row.fields[field]?).getD "")
  if text = "" then joining.filler.getD "" else text

/-- How far two inputs have been joined. -/
structure State where
  sources : Sides Source
  /-- The lines that were read last. -/
  before : Sides (Option Row) := ⟨none, none⟩
  /-- How many lines were read. -/
  numbers : Sides Nat := ⟨0, 0⟩
  disordered : Sides Bool := ⟨false, false⟩
  hasUnpaired : Bool := false
  /-- How many fields lines have where their number is fixed. -/
  counts : Sides Nat := ⟨0, 0⟩

/-- What is put out for two lines, one of which may be missing. -/
def joined (joining : Joining) (state : State) (a b : Option Row) : String :=
  let separator := String.singleton (joining.separator.getD ' ')
  let common := if a.isSome then joining.shown a (joining.keyField .first)
    else joining.shown b (joining.keyField .second)
  let others (row : Option Row) (side : Side) : List String :=
    let count := if joining.isFixed then state.counts.get side
      else ((row.map (·.fields.length)).getD 0)
    ((List.range count).filter (· != joining.keyField side)).map (joining.shown row)
  let fields := match joining.format with
    | [] => common :: others a .first ++ others b .second
    | format => format.map fun field =>
      match field with
      | .common => common
      | .of .first field => joining.shown a field
      | .of .second field => joining.shown b field
  (String.intercalate separator fields).push joining.mark

/-- Puts out what two lines are joined to. -/
def put (joining : Joining) (progress : Progress State) (a b : Option Row)
    (next : Progress State → Job) : Job :=
  progress.put (joining.joined progress.state a b) next

/-- Reads a line of an input, if there is one, and looks whether it stands in order. -/
def nextRow (call : Invocation) (joining : Joining) (side : Side) (progress : Progress State)
    (next : Option Row → Progress State → Job) : Job :=
  let state := progress.state
  (state.sources.get side).nextLine joining.mark fun line source =>
    let state := { state with sources := state.sources.set side source }
    match line with
    | none =>
      let progress := { progress with state }
      match source.fault with
      | some fault => progress.fail call ("read error: " ++ fault.message)
      | none => next none progress
    | some line =>
      let row : Row := ⟨line.text, joining.fieldsOf line.text⟩
      let number := state.numbers.get side + 1
      let looks := match joining.check with
        | .never => false
        | .unpaired => state.hasUnpaired
        | .always => true
      let isDisordered := looks && !state.disordered.get side &&
        (state.before.get side).any fun before =>
          joining.compareRows side before side row == .gt
      let state := { state with
        before := state.before.set side (some row), numbers := state.numbers.set side number }
      if !isDisordered then next (some row) { progress with state }
      else
        let state := { state with disordered := state.disordered.set side true }
        let name := ((joining.names.map (·.1)).getD (side.number - 1) "")
        let shown := if line.text.endsWith "\n" then (line.text.dropEnd 1).toString else line.text
        let complaint := name ++ ":" ++ toString number ++ ": is not sorted: " ++ shown
        let progress := { progress with state }
        if joining.check = .always then progress.fail call complaint
        else progress.warn call complaint (next (some row))

/-- Reads on in an input while its lines go with a line of the other one: those that do, in reverse,
and the first one that does not. -/
def gather (call : Invocation) (joining : Joining) (side : Side) (isPartner : Row → Bool)
    (next : List Row → Option Row → Progress State → Job) :
    (measure : Nat) → List Row → Progress State → Job
  | 0, rows, progress => next rows none progress
  | measure + 1, rows, progress =>
    nextRow call joining side progress fun row progress =>
      match row with
      | some row =>
        if isPartner row then gather call joining side isPartner next measure (row :: rows) progress
        else next rows (some row) progress
      | none => next rows none progress

/-- Reads an input to its end, after a line of it that has no partner any more. -/
def drain (call : Invocation) (joining : Joining) (side : Side) (next : Progress State → Job) :
    (measure : Nat) → Progress State → Job
  | 0, progress => next progress
  | measure + 1, progress =>
    nextRow call joining side progress fun row progress =>
      match row with
      | none => next progress
      | some row =>
        if joining.showsUnpaired.get side then
          let (a, b) := if side = .first then (some row, none) else (none, some row)
          joining.put progress a b (drain call joining side next measure)
        else if progress.state.disordered.get side then next progress
        else drain call joining side next measure progress

/-- Puts out what is left of an input when the other one is over, and looks at its order. -/
def finishSide (call : Invocation) (joining : Joining) (side : Side) (looks : Bool)
    (row : Option Row) (other : Bool) (next : Progress State → Job) (progress : Progress State) :
    Job :=
  let shows := joining.showsUnpaired.get side
  match row with
  | none => next progress
  | some row =>
    if !shows && !looks then next progress
    else
      let goOn (progress : Progress State) : Job :=
        let state := { progress.state with hasUnpaired := progress.state.hasUnpaired || other }
        drain call joining side next mostReads { progress with state }
      if shows then
        let (a, b) := if side = .first then (some row, none) else (none, some row)
        joining.put progress a b goOn
      else goOn progress

/-- Puts out a list of pairs. -/
def putPairs (joining : Joining) (next : Progress State → Job) :
    List (Row × Row) → Progress State → Job
  | [], progress => next progress
  | (a, b) :: rest, progress =>
    joining.put progress (some a) (some b) (putPairs joining next rest)

/-- Ends. -/
def conclude (call : Invocation) (progress : Progress State) : Job :=
  if progress.state.disordered.first || progress.state.disordered.second then
    progress.fail call "input is not in sorted order"
  else progress.exit call 0

/-- Joins lines, given those at hand. -/
def run (call : Invocation) (joining : Joining) :
    (measure : Nat) → Option Row → Option Row → Progress State → Job
  | 0, _, _, progress => progress.exit call 0
  | measure + 1, some a, some b, progress =>
    let goOn := run call joining measure
    let alone (progress : Progress State) : Progress State :=
      { progress with state := { progress.state with hasUnpaired := true } }
    match joining.compareRows .first a .second b with
    | .lt =>
      let step (progress : Progress State) : Job :=
        nextRow call joining .first progress fun a progress => goOn a (some b) (alone progress)
      if joining.showsUnpaired.first then joining.put progress (some a) none step else step progress
    | .gt =>
      let step (progress : Progress State) : Job :=
        nextRow call joining .second progress fun b progress => goOn (some a) b (alone progress)
      if joining.showsUnpaired.second then joining.put progress none (some b) step else step progress
    | .eq =>
      gather call joining .first (fun row => joining.compareRows .first row .second b == .eq)
        (fun rowsA nextA progress =>
          gather call joining .second (fun row => joining.compareRows .first a .second row == .eq)
            (fun rowsB nextB progress =>
              let pairs := if joining.showsPaired then
                  rowsA.reverse.flatMap fun x => rowsB.reverse.map fun y => (x, y)
                else []
              joining.putPairs (goOn nextA nextB) pairs progress)
            mostReads [b] progress)
        mostReads [a] progress
  | _ + 1, a, b, progress =>
    let state := progress.state
    let looks := joining.check != .never && !(state.disordered.first && state.disordered.second)
    finishSide call joining .first looks a b.isSome
      (finishSide call joining .second looks b a.isSome (conclude call)) progress

/-- Joins two inputs. -/
def start (call : Invocation) (joining : Joining) (sources : Sides Source) : Job :=
  let goOn := run call joining (2 * mostReads)
  nextRow call joining .first { state := { sources } } fun a progress =>
    nextRow call joining .second progress fun b progress =>
      let count (row : Option Row) : Nat := (row.map (·.fields.length)).getD 0
      let state := { progress.state with counts := ⟨count a, count b⟩ }
      let progress := { progress with state }
      if !joining.hasHeader || (a.isNone && b.isNone) then goOn a b progress
      else
        joining.put progress a b fun progress =>
          let state := { progress.state with before := ⟨none, none⟩ }
          let after (side : Side) (row : Option Row) (progress : Progress State)
              (next : Option Row → Progress State → Job) : Job :=
            if row.isSome then nextRow call joining side progress next else next none progress
          after .first a { progress with state } fun a progress =>
            after .second b progress fun b progress => goOn a b progress

end Joining

/-- The program `join`. -/
def join : Utility := fun call =>
  Joining.accepted.read call 1 (fun arguments =>
    match Joining.ofArguments call arguments with
    | .error refusal => refusal
    | .ok joining =>
      match joining.names with
      | [(first, _), (second, _)] =>
        openSource call first fun a => openSource call second fun b =>
          if first = "-" ∧ second = "-" then
            Job.fail call ("both files cannot be standard input" ++
              -- Where the rules of a place were looked for, the last fault is told too.
              if Invocation.isPlainPlace (call.place "LC_CTYPE") then ""
              else ": " ++ SystemFault.missing.message)
          else joining.start call ⟨a, b⟩
      | [] => Job.misuse call "missing operand"
      | _ => Job.misuse call ("missing operand after " ++ call.quote (call.args.getLastD "")))
    fun arguments job =>
      match arguments.options.foldlM (Joining.add call) ({} : Joining) with
      | .error refusal => refusal
      | .ok _ => job

end Utility

end ArtifactLens.Shell
