import ArtifactLens.Shell.Conversion
import ArtifactLens.Shell.Utility.Filtering

/-!
# Printing by a format

The program `printf` writes its arguments as a format says. A format is used again for as long as there
are arguments and it takes some. What is printed (`Printout`) is a list of events, since complaints
stand between the texts that come before and after them.
-/

namespace ArtifactLens.Shell

namespace Utility

/-- What happens while a format is used. -/
inductive PrintEvent where
  | text (text : String)
  | complaint (text : String)

/-- Why nothing more is printed. -/
inductive PrintStop where
  /-- An escape ends all output. -/
  | asked
  /-- The format or an argument cannot be used. -/
  | refused

/-- What was printed so far. -/
structure Printout where
  /-- The arguments that are left. -/
  args : List String
  /-- What happened, the newest first. -/
  events : List PrintEvent := []
  failed : Bool := false
  stop : Option PrintStop := none

namespace Printout

/-- Prints a text. -/
def put (printout : Printout) (text : String) : Printout :=
  { printout with events := .text text :: printout.events }

/-- Says something that is no failure. -/
def warn (printout : Printout) (text : String) : Printout :=
  { printout with events := .complaint text :: printout.events }

/-- Complains. -/
def complain (printout : Printout) (text : String) : Printout :=
  { printout.warn text with failed := true }

/-- Complains and stops. -/
def refuse (printout : Printout) (text : String) : Printout :=
  { printout.complain text with stop := some .refused }

/-- Takes the next argument, if one is left. -/
def next (printout : Printout) : Option String × Printout :=
  match printout.args with
  | [] => (none, printout)
  | arg :: args => (some arg, { printout with args })

/-! ### Escapes -/

/-- The character of a letter after a backslash. -/
def letter? (c : Char) : Option Char :=
  match c with
  | '"' | '\\' => some c
  | 'a' => some '\x07'
  | 'b' => some '\x08'
  | 'e' => some '\x1b'
  | 'f' => some '\x0c'
  | 'n' => some '\n'
  | 'r' => some '\r'
  | 't' => some '\t'
  | 'v' => some '\x0b'
  | _ => none

/-- Letters cannot be named by the number of a plain one, except for three, nor by that of half a
pair. -/
def isNameable (code : Nat) : Bool :=
  (code > 0x9f || code == 0x24 || code == 0x40 || code == 0x60) && !(0xd800 ≤ code && code ≤ 0xdfff)

/-- The character of a number; where it cannot be written, the escape that names it. -/
def character (call : Invocation) (code : Nat) : String :=
  if code < 0x80 ∨ (call.isUtf8 ∧ code < 0x110000) then String.ofList (OctetText.ofUnit code)
  else
    let digits := (Digit.hex code).map Char.toUpper
    if code < 0x10000 then "\\u" ++ Digit.padLeft 4 '0' digits else "\\U" ++ Digit.padLeft 8 '0' digits

/-- Prints what an escape stands for, given the text after its backslash; tells how much of that text
belongs to it. With `zero` a zero stands in front of octal digits. -/
def escape (call : Invocation) (printout : Printout) (zero : Bool) (text : List Char) :
    Printout × Nat :=
  let isHex (c : Char) : Bool := (Digit.hexValue? c).isSome
  let isOctal (c : Char) : Bool := '0' ≤ c && c ≤ '7'
  let octet (n : Nat) : String := String.singleton (Char.ofNat (n % 256))
  let named (letter : Char) (size : Nat) (rest : List Char) : Printout × Nat :=
    let digits := (rest.take size).takeWhile isHex
    let code := Digit.hexNumeral digits
    if digits.length < size then (printout.refuse "missing hexadecimal number in escape", 0)
    else if isNameable code then (printout.put (character call code), size + 1)
    else
      (printout.refuse ("invalid universal character name \\" ++ String.singleton letter ++
        Digit.padLeft size '0' (Digit.hex code)), 0)
  match text with
  | [] => (printout.put "\\", 0)
  | 'x' :: rest =>
    let digits := (rest.take 2).takeWhile isHex
    if digits.isEmpty then (printout.refuse "missing hexadecimal number in escape", 0)
    else (printout.put (octet (Digit.hexNumeral digits)), digits.length + 1)
  | 'c' :: _ => ({ printout with stop := some .asked }, 0)
  | 'u' :: rest => named 'u' 4 rest
  | 'U' :: rest => named 'U' 8 rest
  | c :: _ =>
    if isOctal c then
      let skipped := if zero ∧ c = '0' then 1 else 0
      let digits := ((text.drop skipped).take 3).takeWhile isOctal
      (printout.put (octet (Arithmetic.digitsValue 8 digits)), skipped + digits.length)
    else
      match letter? c with
      | some d => (printout.put (String.singleton d), 1)
      | none => (printout.put (String.ofList ['\\', c]), 1)

/-- Prints a text with escapes. -/
def escaped (call : Invocation) (printout : Printout) : (measure : Nat) → List Char → Printout
  | 0, _ => printout
  | _ + 1, [] => printout
  | measure + 1, '\\' :: rest =>
    let (printout, size) := printout.escape call true rest
    if printout.stop.isSome then printout else escaped call printout measure (rest.drop size)
  | measure + 1, text =>
    let plain := text.takeWhile (· != '\\')
    escaped call (printout.put (String.ofList plain)) measure (text.drop plain.length)

/-! ### Values -/

/-- The number of the character after a quote, and what follows it. -/
def afterQuote (call : Invocation) : List Char → Nat × List Char
  | [] => (0, [])
  | c :: rest =>
    if call.isUtf8 ∧ !rest.isEmpty then
      match OctetText.units ((c :: rest).take 4) with
      | unit :: _ =>
        if unit < OctetText.strayBase then
          (unit, (c :: rest).drop (OctetText.ofUnit unit).length)
        else (c.toNat, rest)
      | [] => (c.toNat, rest)
    else (c.toNat, rest)

/-- Takes an argument as a number: that of a character after a quote, or what `read` makes of it, which
tells whether it is out of range, and what follows it. -/
def number {α : Type} (call : Invocation) (printout : Printout) (arg : String) (ofCode : Nat → α)
    (zero : α) (read : List Char → Option (α × Bool × List Char)) : α × Printout :=
  let constant? := match arg.toList with
    | '"' :: c :: rest | '\'' :: c :: rest => some (c :: rest)
    | _ => none
  match constant? with
  | some text =>
    let (code, rest) := afterQuote call text
    (ofCode code,
      if rest.isEmpty ∨ (call.value? "POSIXLY_CORRECT").isSome then printout
      else printout.warn ("warning: " ++ String.ofList rest ++
        ": character(s) following character constant have been ignored"))
  | none =>
    match read arg.toList with
    | some (value, isOutOfRange, rest) =>
      (value,
        if isOutOfRange then
          printout.complain (call.quote arg ++ ": Numerical result out of range")
        else if rest.isEmpty then printout
        else printout.complain (call.quote arg ++ ": value not completely converted"))
    | none =>
      (zero,
        if arg = "" then printout
        else printout.complain (call.quote arg ++ ": expected a numeric value"))

/-- Reads an integer at the start of a text, in the base that its digits tell of. -/
def readInteger (signed : Bool) (text : List Char) : Option (Int × Bool × List Char) := do
  let body := text.dropWhile Arithmetic.isSpace
  let (negative, body) := match body with
    | '-' :: rest => (true, rest)
    | '+' :: rest => (false, rest)
    | rest => (false, rest)
  let (magnitude, rest) ← Arithmetic.unsigned? body
  let value : Int := if negative then -(magnitude : Int) else magnitude
  let (least, most) : Int × Int := if signed then (Arithmetic.least, Arithmetic.greatest)
    else (-(2 ^ 64 - 1), 2 ^ 64 - 1)
  if value < least then some (if signed then least else most, true, rest)
  else if most < value then some (most, true, rest)
  else some (value, false, rest)

/-- Takes an argument as an integer; without one it is zero. -/
def integer (call : Invocation) (printout : Printout) (signed : Bool) : Option String → Int × Printout
  | none => (0, printout)
  | some arg => printout.number call arg (fun code => (code : Int)) 0 (readInteger signed)

/-- Takes an argument as a number that need not be whole; without one it is zero. -/
def float (call : Invocation) (printout : Printout) : Option String → Extended × Printout
  | none => (.ofNat 0, printout)
  | some arg =>
    printout.number call arg Extended.ofNat (.ofNat 0) fun text =>
      (Conversion.readFloat text).map fun numeral =>
        let (value, isOutOfRange) := numeral.toExtended
        (value, isOutOfRange, numeral.rest)

/-! ### Conversions -/

/-- The letters of conversions that a flag is not for. -/
def barred (flag : Char) : String :=
  match flag with
  | '\'' | 'I' => "aAceEosxX"
  | '#' => "cdisu"
  | '0' => "cs"
  | '.' => "c"
  | _ => ""

/-- The greatest width and precision. -/
def mostWide : Nat := 2 ^ 31 - 1

/-- A width or a precision from a text: digits, or a star that stands for an argument. -/
def measureOf (call : Invocation) (printout : Printout) (noun : String) (isPrecision : Bool)
    (text : List Char) : Int × Printout × List Char :=
  match text with
  | '*' :: rest =>
    let (arg, printout) := printout.next
    let (value, printout) := printout.integer call true arg
    let isFitting := value ≤ (mostWide : Int) ∧ (isPrecision ∨ -(2 ^ 31 : Int) ≤ value)
    (value, if isFitting then printout
      else printout.refuse ("invalid " ++ noun ++ ": " ++ call.quote (arg.getD "")), rest)
  | _ =>
    let digits := text.takeWhile Char.isDigit
    (Digit.numeral digits, printout, text.drop digits.length)

/-- Prints an argument by a conversion. -/
def convert (call : Invocation) (printout : Printout) (conversion : Conversion) : Printout :=
  let (arg, printout) := printout.next
  if conversion.width > mostWide ∨ conversion.precision.any (· > mostWide) then
    printout.refuse "cannot perform formatted output: Value too large for defined data type"
  else
    match conversion.letter with
    | 'c' =>
      printout.put (conversion.pad (String.singleton ((arg.bind (·.toList.head?)).getD '\x00')))
    | 's' => printout.put (conversion.text (arg.getD ""))
    | 'd' | 'i' =>
      let (value, printout) := printout.integer call true arg
      printout.put (conversion.integer value)
    | 'o' | 'u' | 'x' | 'X' =>
      let (value, printout) := printout.integer call false arg
      printout.put (conversion.natural (value % 2 ^ 64).toNat)
    | _ =>
      let (value, printout) := printout.float call arg
      printout.put (conversion.extended value)

/-- Reads a conversion from after its percent sign and prints an argument by it. -/
def directive (call : Invocation) (printout : Printout) (text : List Char) : Printout × List Char :=
  match text with
  | '%' :: rest => (printout.put "%", rest)
  | 'b' :: rest =>
    let (arg, printout) := printout.next
    let arg := arg.getD ""
    (printout.escaped call (arg.length + 1) arg.toList, rest)
  | 'q' :: rest =>
    let (arg, printout) := printout.next
    ((arg.map fun arg => printout.put (call.quoteWord arg)).getD printout, rest)
  | _ =>
    let flags := text.takeWhile fun c => Conversion.isFlag c || c == '\'' || c == 'I'
    let conversion : Conversion := flags.foldl Conversion.flag { letter := 's' }
    let (width, printout, rest) :=
      printout.measureOf call "field width" false (text.drop flags.length)
    let conversion := { conversion with
      width := width.natAbs, leftAligned := conversion.leftAligned || width < 0 }
    if printout.stop.isSome then (printout, rest)
    else
      let (precision, printout, rest, flags) : Option Nat × Printout × List Char × List Char :=
        match rest with
        | '.' :: more =>
          let (precision, printout, rest) := printout.measureOf call "precision" true more
          (if precision < 0 then none else some precision.toNat, printout, rest, '.' :: flags)
        | _ => (none, printout, rest, flags)
      if printout.stop.isSome then (printout, rest)
      else
        let rest := rest.dropWhile fun c => "lLhjtz".contains c
        let letter? := rest.head?.filter fun letter =>
          "aAcdeEfFgGiosuxX".contains letter && !flags.any fun flag => (barred flag).contains letter
        match letter? with
        | some letter =>
          (printout.convert call { conversion with precision, letter }, rest.drop 1)
        | none =>
          let spelled := text.take (text.length - rest.length + 1)
          (printout.refuse ("%" ++ String.ofList spelled ++ ": invalid conversion specification"),
            rest)

/-- Uses a format once. -/
def format (call : Invocation) (printout : Printout) : (measure : Nat) → List Char → Printout
  | 0, _ => printout
  | _ + 1, [] => printout
  | measure + 1, c :: rest =>
    if printout.stop.isSome then printout
    else if c = '%' then
      let (printout, rest) := printout.directive call rest
      format call printout measure rest
    else if c = '\\' then
      let (printout, size) := printout.escape call false rest
      format call printout measure (rest.drop size)
    else
      let plain := (c :: rest).takeWhile fun d => d != '\\' && d != '%'
      format call (printout.put (String.ofList plain)) measure ((c :: rest).drop plain.length)

/-- Uses a format until no argument is left, or none is taken, but at least once. -/
def repeatFormat (call : Invocation) (text : List Char) : (measure : Nat) → Printout → Printout
  | 0, printout => printout
  | measure + 1, printout =>
    let after := printout.format call (text.length + 1) text
    if after.stop.isSome ∨ after.args.isEmpty ∨ after.args.length = printout.args.length then after
    else repeatFormat call text measure after

/-- What a format prints for arguments. -/
def print (call : Invocation) (format : String) (args : List String) : Printout :=
  let printout := repeatFormat call format.toList (args.length + 1) { args }
  match printout.stop, printout.args with
  | none, arg :: _ =>
    printout.warn ("warning: ignoring excess arguments, starting with " ++ call.quote arg)
  | _, _ => printout

/-- The status in the end. -/
def status (printout : Printout) : Nat :=
  match printout.stop with
  | some .asked => 0
  | some .refused => 1
  | none => if printout.failed then 1 else 0

/-- Lets events happen. -/
def happen (call : Invocation) (status : Nat) (progress : Progress Unit) : List PrintEvent → Job
  | [] => progress.exit call status
  | .text text :: rest => progress.put text fun progress => happen call status progress rest
  | .complaint text :: rest =>
    progress.warn call text fun progress => happen call status progress rest

end Printout

/-- The program `printf`. -/
def printf : Utility := fun call =>
  let print (words : List String) : Job :=
    match words with
    | [] => Job.misuse call "missing operand"
    | format :: args =>
      let printout := Printout.print call format args
      Printout.happen call printout.status { state := () } printout.events.reverse
  match call.args with
  | ["--help"] | ["--version"] =>
    ({ letters := "" } : Accepted).read call 1 fun _ => .exit 0
  | "--" :: words => print words
  | words => print words

end Utility

end ArtifactLens.Shell
