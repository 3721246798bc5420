import ArtifactLens.Shell.Conversion
import ArtifactLens.Shell.Utility.Basic

/-!
# Sequences of numbers

The program `seq` puts out numbers at equal distances, from one to another. It calculates with extended
precision, unless all numbers are plain whole ones, which may be of any size.
-/

namespace ArtifactLens.Shell

namespace Utility

/-! ### Formats -/

/-- A format with one conversion, and the text around it. -/
structure NumberFormat where
  before : String
  conversion : Conversion
  after : String

namespace NumberFormat

/-- The text in front of a conversion, in reverse, and what follows its sign. -/
def beforeSign (done : List Char) : List Char → Option (List Char × List Char)
  | [] => none
  | '%' :: '%' :: rest => beforeSign ('%' :: done) rest
  | '%' :: rest => some (done, rest)
  | c :: rest => beforeSign (c :: done) rest

/-- A text in which percent signs stand in pairs. -/
def plain? : List Char → Option (List Char)
  | [] => some []
  | '%' :: '%' :: rest => (plain? rest).map ('%' :: ·)
  | '%' :: _ => none
  | c :: rest => (plain? rest).map (c :: ·)

/-- Reads a format, or tells what is wrong with it. -/
def read (call : Invocation) (text : String) : Except String NumberFormat :=
  let wrong (what : String) : Except String NumberFormat :=
    .error ("format " ++ call.quote text ++ " " ++ what)
  match beforeSign [] text.toList with
  | none => wrong "has no % directive"
  | some (before, rest) =>
    let flags := rest.takeWhile fun c => Conversion.isFlag c || c == '\''
    let rest := rest.drop flags.length
    let width := rest.takeWhile Char.isDigit
    let rest := rest.drop width.length
    let (precision, rest) := match rest with
      | '.' :: more =>
        let digits := more.takeWhile Char.isDigit
        (some (Digit.numeral digits), more.drop digits.length)
      | _ => (none, rest)
    let rest := match rest with
      | 'L' :: more => more
      | _ => rest
    match rest with
    | [] => wrong "ends in %"
    | letter :: after =>
      if !"efgaEFGA".contains letter then
        wrong ("has unknown %" ++ String.singleton letter ++ " directive")
      else
        match plain? after with
        | none => wrong "has too many % directives"
        | some after =>
          let conversion := flags.foldl Conversion.flag { letter }
          .ok
            { before := String.ofList before.reverse
              conversion := { conversion with width := Digit.numeral width, precision }
              after := String.ofList after }

/-- A number by a format. -/
def render (format : NumberFormat) (value : Extended) : String :=
  format.before ++ format.conversion.extended value ++ format.after

end NumberFormat

/-! ### Bounds -/

/-- A number as it was given. -/
structure Bound where
  value : Extended
  /-- The width of the number if it is shown like it was given. -/
  width : Int := 1
  /-- How many places it has; none are told of numbers that are not decimals. -/
  places : Option Nat := some 0

namespace Bound

/-- The number one. -/
def one : Bound := { value := .ofNat 1 }

/-- Why a text is no bound. -/
inductive Fault where
  | invalid
  | notNumber

/-- The wording of a fault in a text. -/
def Fault.message (call : Invocation) (text : String) : Fault → String
  | .invalid => "invalid floating point argument: " ++ call.quote text
  | .notNumber => "invalid " ++ call.quote "not-a-number" ++ " argument: " ++ call.quote text

/-- The value of a text that spells nothing else. What is too large, or so small that it is not held
exactly, is refused, but zero stands for what is smaller still. -/
def value? (text : String) : Option Extended :=
  match Conversion.readFloat text.toList with
  | none => none
  | some numeral =>
    let (value, isOutOfRange) := numeral.toExtended
    if !numeral.rest.isEmpty ∨ (isOutOfRange ∧ !value.isZero) then none else some value

/-- The width and the places of a decimal, before its exponent is taken into account. -/
def extent (text : List Char) : Int × Nat × Nat × Bool :=
  let fraction := (text.dropWhile (· != '.')).drop 1
  let whole := text.takeWhile (· != '.')
  let hasPoint := text.contains '.'
  let length := if hasPoint then (fraction.takeWhile fun c => c != 'e' && c != 'E').length else 0
  let correction : Int :=
    if !hasPoint then 0
    else if length = 0 then -1
    else if !whole.getLast?.any Char.isDigit then 1
    else 0
  (text.length + correction, length, length, hasPoint)

/-- The number after the letter of an exponent. -/
def exponentOf (text : List Char) : Int :=
  let (negative, digits) := match text with
    | '-' :: rest => (true, rest)
    | '+' :: rest => (false, rest)
    | rest => (false, rest)
  let n : Int := Digit.numeral (digits.takeWhile Char.isDigit)
  if negative then -n else n

/-- Reads a bound. -/
def read (text : String) : Except Fault Bound :=
  match value? text with
  | none => .error .invalid
  | some (.nan _) => .error .notNumber
  | some value =>
    let chars := text.toList.dropWhile fun c => Arithmetic.isSpace c || c == '+'
    let isFinite := value.toRat?.isSome
    let isHex := chars.any fun c => c == 'x' || c == 'X'
    if isHex ∨ !isFinite then
      let isWhole := !chars.any fun c => c == '.' || c == 'p'
      .ok { value, width := 0, places := if isWhole then some 0 else none }
    else
      let (width, places, length, hasPoint) := extent chars
      let start := chars.takeWhile fun c => c != 'e' && c != 'E'
      match chars.drop start.length with
      | [] => .ok { value, width, places := some places }
      | _ :: rest =>
        let exponent := exponentOf rest
        let width := width - (rest.length + 1)
        if exponent < 0 then
          let width := if !hasPoint ∨ start.getLast? = some '.' then width + 1 else width
          .ok { value, width := width + exponent.natAbs, places := some (places + exponent.natAbs) }
        else
          let places := places - exponent.natAbs
          let width := if hasPoint ∧ places = 0 ∧ length > 0 then width - 1 else width
          .ok { value, width := width + (exponent.natAbs - length : Nat), places := some places }

/-- The number is whole and not written otherwise. -/
def isWhole (bound : Bound) : Bool := bound.places == some 0

end Bound

/-- The format that shows numbers like the bounds were given. -/
def formatFor (sameWidth : Bool) (first step last : Bound) : NumberFormat :=
  let plain (conversion : Conversion) : NumberFormat := ⟨"", conversion, ""⟩
  match first.places, step.places, last.places with
  | some a, some s, some b =>
    let places := max a s
    let point (own : Nat) : Int := if own = 0 ∧ places > 0 then 1 else 0
    let firstWidth := first.width + (places - a : Nat) + point a
    let lastWidth := last.width + ((places : Int) - b) + point b -
      (if b > 0 ∧ places = 0 then 1 else 0)
    let width := if sameWidth then (max firstWidth lastWidth).toNat else 0
    plain { letter := 'f', precision := some places, zeros := sameWidth, width }
  | _, _, _ => plain { letter := 'g' }

/-! ### Writing -/

/-- Numbers one after another: the text of each, if there is one, and what leads to the next one. -/
structure Steps (State : Type) where
  next : State → Option (String × State)

/-- How many numbers are written at once. -/
def stepsAtOnce : Nat := 500

/-- The texts of the next numbers, in reverse, and what leads to those after them. -/
def Steps.take {State : Type} (steps : Steps State) :
    (count : Nat) → List String → State → List String × Option State
  | 0, done, state => (done, some state)
  | count + 1, done, state =>
    match steps.next state with
    | none => (done, none)
    | some (text, state) => steps.take count (text :: done) state

/-- Writes numbers, with a separator between them; `start` is what comes before the next one. -/
def Steps.write {State : Type} (call : Invocation) (separator : String) (steps : Steps State) :
    (measure : Nat) → (start : String) → State → Job
  | 0, _, _ => .exit 0
  | measure + 1, start, state =>
    let (texts, rest) := steps.take stepsAtOnce [] state
    let text := if texts.isEmpty then "" else start ++ String.intercalate separator texts.reverse
    let ending : String := match rest with
      | some _ => ""
      | none => if texts.isEmpty ∧ start = "" then "" else "\n"
    .write 1 (text ++ ending) fun fault =>
      match fault, rest with
      | some fault, _ => Job.fail call ("write error: " ++ fault.message)
      | none, some state => steps.write call separator measure separator state
      | none, none => .exit 0

/-- Whole numbers up to a last one, if there is one. -/
def wholeSteps (step : Nat) (last : Option Nat) : Steps Nat where
  next n := if last.all (n ≤ ·) then some (toString n, n + step) else none

/-- How far a sequence has come: the number of steps, and the last number shown. -/
structure SequenceState where
  index : Nat := 0
  last : Extended
  isOver : Bool := false

/-- Numbers at equal distances. One just past the last is shown too, if it looks like that and not like
the one before: calculating is not exact. -/
def floatSteps (format : NumberFormat) (first step last : Extended) : Steps SequenceState where
  next state :=
    let isPast (x : Extended) : Bool :=
      if step.isNegative then x.compare? last == some .lt else last.compare? x == some .lt
    if state.isOver then none
    else if state.index = 0 then
      if isPast first then none else some (format.render first, { index := 1, last := first })
    else
      let x := first + Extended.ofNat state.index * step
      let shown := format.conversion.extended x
      if !isPast x then some (format.render x, { index := state.index + 1, last := x })
      else
        let looksLast := (Bound.value? shown).any fun value => value.compare? last == some .eq
        if looksLast && format.conversion.extended state.last != shown then
          some (format.render x, { index := state.index + 1, last := x, isOver := true })
        else none

/-! ### The program -/

/-- How many numbers can be written in all. -/
def mostSteps : Nat := 10 ^ 18

/-- Puts a double dash in front of the first negative number, where numbers begin. -/
def protectNumbers : List String → List String
  | [] => []
  | arg :: rest =>
    match arg.toList with
    | '-' :: c :: more =>
      if c.isDigit ∨ c = '.' then "--" :: arg :: rest
      else if arg = "--" then arg :: rest
      else
        -- The value of an option may stand apart from it.
        let letters := (c :: more).dropWhile (· == 'w')
        let isApart := if c = '-' then
            !arg.contains '=' && arg.length > 2 &&
              ("--separator".startsWith arg || "--format".startsWith arg)
          else letters == ['s'] || letters == ['f']
        match rest with
        | value :: more =>
          if isApart then arg :: value :: protectNumbers more
          else arg :: protectNumbers (value :: more)
        | [] => [arg]
    | _ => arg :: rest

/-- The text consists of digits. -/
def isAllDigits (text : String) : Bool := text != "" && text.all Char.isDigit

/-- The greatest step in which plain whole numbers are counted. -/
def mostWholeStep : Nat := 200

/-- Shows numbers between bounds; they are counted as whole numbers where that makes no difference. -/
def showSequence (call : Invocation) (separator : String) (sameWidth : Bool)
    (format : Option NumberFormat) (texts : String × String × String) (hasStep : Bool) : Job :=
  let write {State : Type} (steps : Steps State) (state : State) : Job :=
    steps.write call separator mostSteps "" state
  let isSimple := !sameWidth && format.isNone && separator.length == 1
  let (firstText, stepText, lastText) := texts
  let number (text : String) : Nat := Digit.numeral text.toList
  let stepIsWhole := !hasStep ||
    (isAllDigits stepText && number stepText != 0 && number stepText ≤ mostWholeStep)
  if isSimple && stepIsWhole && isAllDigits firstText && isAllDigits lastText then
    if number firstText ≤ number lastText then
      write (wholeSteps (number stepText) (some (number lastText))) (number firstText)
    else .exit 0
  else
    let refuse (text : String) (fault : Bound.Fault) : Job := Job.misuse call (fault.message call text)
    let run (first step last : Bound) : Job :=
      let whole? (bound : Bound) : Option Nat :=
        if bound.isWhole then bound.value.toRat?.bind fun value =>
          if value ≥ 0 then some value.floor.toNat else none
        else none
      let general : Job :=
        let format := format.getD (formatFor sameWidth first step last)
        write (floatSteps format first.value step.value last.value) { last := first.value }
      match isSimple, whole? first, whole? step, last.isWhole with
      | true, some a, some s, true =>
        if s = 0 ∨ s > mostWholeStep then general
        else
          match last.value with
          | .infinite false => write (wholeSteps s none) a
          | value =>
            match value.toRat? with
            | some b =>
              if b > 0 ∧ (a : Rat) ≤ b then write (wholeSteps s (some b.floor.toNat)) a else general
            | none => general
      | _, _, _, _ => general
    -- The first number is read first, and a step that leads nowhere is refused before the last one.
    match Bound.read firstText with
    | .error fault => refuse firstText fault
    | .ok first =>
      match Bound.read stepText with
      | .error fault => refuse stepText fault
      | .ok step =>
        if step.value.isZero then
          Job.misuse call ("invalid Zero increment value: " ++ call.quote stepText)
        else
          match Bound.read lastText with
          | .error fault => refuse lastText fault
          | .ok last => run first step last

/-- The program `seq`. -/
def seq : Utility := fun call =>
  let accepted : Accepted :=
    { letters := "f:s:w", leading := true
      names := [("equal-width", 'w'), ("format", 'f'), ("separator", 's')] }
  let guarded : Invocation := { call with args := protectNumbers call.args }
  accepted.read guarded 1 fun arguments =>
    let display (texts : String × String × String) (hasStep : Bool) : Job :=
      let separator := (arguments.value? 's').getD "\n"
      let sameWidth := arguments.has 'w'
      match (arguments.value? 'f').map (NumberFormat.read call) with
      | some (.error complaint) => Job.fail call complaint
      | some (.ok format) =>
        if sameWidth then
          Job.misuse call "format string may not be specified when printing equal width strings"
        else showSequence call separator sameWidth (some format) texts hasStep
      | none => showSequence call separator sameWidth none texts hasStep
    match arguments.operands with
    | [] => Job.misuse call "missing operand"
    | [last] => display ("1", "1", last) false
    | [first, last] => display (first, "1", last) false
    | [first, step, last] => display (first, step, last) true
    | _ :: _ :: _ :: extra :: _ => Job.misuse call ("extra operand " ++ call.quote extra)

end Utility

end ArtifactLens.Shell
