import ArtifactLens.Shell.Builtin.Basic
import ArtifactLens.Shell.Conversion

/-!
# Printing

The commands `echo` and `printf`. Both know escapes that begin with a backslash; `printf` repeats
its format for as long as there are arguments.
-/

namespace ArtifactLens.Shell

namespace Escape

/-- The character of a letter after a backslash. -/
def letter? (c : Char) : Option Char :=
  match c with
  | '\\' => some '\\'
  | 'a' => some '\x07'
  | 'b' => some '\x08'
  | 'e' => some '\x1b'
  | 'f' => some '\x0c'
  | 'n' => some '\n'
  | 'r' => some '\r'
  | 't' => some '\t'
  | 'v' => some '\x0b'
  | _ => none

/-- Reads up to three octal digits as the number of an octet. -/
def octal (text : List Char) : Char × List Char :=
  let digits := (text.take 3).takeWhile fun c => '0' ≤ c && c ≤ '7'
  (Char.ofNat (Arithmetic.digitsValue 8 digits % 256), text.drop digits.length)

/-- Reads what follows a backslash in a format; a backslash before anything else stands for
itself. -/
def read (text : List Char) : Char × List Char :=
  match text with
  | c :: rest =>
    if '0' ≤ c ∧ c ≤ '7' then octal text
    else
      match letter? c with
      | some d => (d, rest)
      | none => ('\\', text)
  | [] => ('\\', [])

/-- Replaces the escapes of a text, in which octal digits may follow a zero and `\c` ends all
output: the text, and whether the end was reached. `done` holds the text in reverse. -/
def replaceFrom (done : List Char) : (measure : Nat) → List Char → String × Bool
  | 0, _ => (String.ofList done.reverse, true)
  | _ + 1, [] => (String.ofList done.reverse, true)
  | measure + 1, '\\' :: rest =>
    match rest with
    | 'c' :: _ => (String.ofList done.reverse, false)
    | '0' :: more =>
      let (c, after) := octal more
      replaceFrom (c :: done) measure after
    | _ =>
      let (c, after) := read rest
      replaceFrom (c :: done) measure after
  | measure + 1, c :: rest => replaceFrom (c :: done) measure rest

/-- Replaces the escapes of a text. -/
def replace (text : String) : String × Bool :=
  if text.contains '\\' then replaceFrom [] (text.length + 1) text.toList else (text, true)

end Escape

namespace Builtin

/-- The words of `echo`, as long as none of them ends all output. -/
def echoWords (isFirst : Bool) : List String → String × Bool
  | [] => ("", true)
  | word :: rest =>
    let (text, goesOn) := Escape.replace word
    let text := if isFirst then text else " " ++ text
    if goesOn then
      let (more, goesOn) := echoWords false rest
      (text ++ more, goesOn)
    else (text, false)

/-- What `echo` writes. -/
def echoText (args : List String) : String :=
  let (newline, words) := match args with
    | "-n" :: rest => (false, rest)
    | _ => (true, args)
  let (text, goesOn) := echoWords true words
  if newline ∧ goesOn then text ++ "\n" else text

/-- What is complained about a value that is printed as a number. -/
inductive NumberComplaint where
  | notNumeric (text : String)
  | incomplete (text : String)
  | outOfRange (text : String)

/-- The wording of a complaint about a number. -/
def NumberComplaint.message : NumberComplaint → String
  | .notNumeric text => text ++ ": expected numeric value"
  | .incomplete text => text ++ ": not completely converted"
  | .outOfRange text => text ++ ": Numerical result out of range"

/-- Why a format cannot be used. -/
inductive FormatFault where
  | badDirective (spelled : String)
  | noLetter

/-- The wording of a fault of a format. -/
def FormatFault.message : FormatFault → String
  | .badDirective spelled => spelled ++ ": invalid directive"
  | .noLetter => "missing format character"

/-- The state of `printf`: the arguments left, the pieces written, in reverse, and the complaints. -/
structure Printing where
  args : List String
  pieces : List String := []
  complaints : List NumberComplaint := []
  fault : Option FormatFault := none
  /-- The output was ended by an escape. -/
  isOver : Bool := false

namespace Printing

/-- Writes a piece. -/
def write (state : Printing) (piece : String) : Printing :=
  { state with pieces := piece :: state.pieces }

/-- Takes the next argument. -/
def next (state : Printing) : Option String × Printing :=
  match state.args with
  | [] => (none, state)
  | arg :: args => (some arg, { state with args })

/-- Complains about a value. -/
def warn (state : Printing) (complaint : NumberComplaint) : Printing :=
  { state with complaints := state.complaints ++ [complaint] }

/-- Complains about what a numeral leaves of a text. -/
def check (state : Printing) (text : String) (nothingRead : Bool) (rest : List Char) : Printing :=
  if rest.isEmpty then state
  else if nothingRead then state.warn (.notNumeric text)
  else state.warn (.incomplete text)

/-- Takes the next argument as an integer. With `signed` the range is that of signed numbers. -/
def integer (state : Printing) (signed : Bool) : Int × Printing :=
  match state.next with
  | (none, state) => (0, state)
  | (some text, state) =>
    match text.toList with
    | '"' :: rest | '\'' :: rest => ((rest.head?.map fun c => (c.toNat : Int)).getD 0, state)
    | chars =>
      let body := chars.dropWhile Arithmetic.isSpace
      let (negative, body) := match body with
        | '-' :: rest => (true, rest)
        | '+' :: rest => (false, rest)
        | rest => (false, rest)
      match Arithmetic.unsigned? body with
      | none => (0, state.check text true chars)
      | some (magnitude, rest) =>
        let value : Int := if negative then -(magnitude : Int) else magnitude
        let (low, high) : Int × Int := if signed then (Arithmetic.least, Arithmetic.greatest)
          else (-(2 ^ 64 - 1), 2 ^ 64 - 1)
        let state := state.check text false rest
        if value < low ∨ high < value then
          let state := if rest.isEmpty then
              state.warn (.outOfRange text) else state
          (if signed then (if value < low then low else high) else high, state)
        else (value, state)

/-- Takes the next argument as a floating-point number. -/
def double (state : Printing) : Binary64 × Printing :=
  match state.next with
  | (none, state) => (.finite false 0 0, state)
  | (some text, state) =>
    match text.toList with
    | '"' :: rest | '\'' :: rest =>
      (Binary64.ofDecimal false ((rest.head?.map Char.toNat).getD 0) 0, state)
    | chars =>
      match Conversion.readFloat chars with
      | some numeral =>
        let state := state.check text false numeral.rest
        let (value, isOutOfRange) := numeral.toBinary64
        let state := if numeral.rest.isEmpty ∧ isOutOfRange then
            state.warn (.outOfRange text) else state
        (value, state)
      | none => (.finite false 0 0, state.check text true chars)

/-- Reads a width or a precision: digits, or a star that stands for an argument. -/
def measureOf (state : Printing) (text : List Char) : Int × List Char × Printing :=
  match text with
  | '*' :: rest =>
    let (value, state) := state.integer true
    (value, rest, state)
  | _ =>
    let digits := text.takeWhile Char.isDigit
    (Digit.numeral digits, text.drop digits.length, state)

/-- Writes the next argument by a conversion that was read; `spelled` is its text. -/
def convert (state : Printing) (conversion : Conversion) (spelled : String) : Printing :=
  match conversion.letter with
  | 'b' =>
    let (arg, state) := state.next
    let (text, goesOn) := Escape.replace (arg.getD "")
    { state.write (conversion.text text) with isOver := !goesOn }
  | 'c' =>
    let (arg, state) := state.next
    let c := (arg.bind fun text => text.toList.head?).getD '\x00'
    state.write (conversion.pad (String.singleton c))
  | 's' =>
    let (arg, state) := state.next
    state.write (conversion.text (arg.getD ""))
  | 'd' | 'i' =>
    let (value, state) := state.integer true
    state.write (conversion.integer value)
  | 'o' | 'u' | 'x' | 'X' =>
    let (value, state) := state.integer false
    state.write (conversion.natural (value % 2 ^ 64).toNat)
  | 'a' | 'A' | 'e' | 'E' | 'f' | 'F' | 'g' | 'G' =>
    let (value, state) := state.double
    state.write (conversion.double value)
  | _ => { state with fault := some (.badDirective spelled) }

/-- Reads a conversion from after its percent sign and writes an argument by it. -/
def directive (state : Printing) (text : List Char) : Printing × List Char :=
  let flags := text.takeWhile Conversion.isFlag
  let rest := text.drop flags.length
  let conversion : Conversion := flags.foldl Conversion.flag { letter := 's' }
  let (width, rest, state) := state.measureOf rest
  let conversion := { conversion with
    width := width.natAbs, leftAligned := conversion.leftAligned || width < 0 }
  let (conversion, rest, state) := match rest with
    | '.' :: after =>
      let (precision, after, state) := state.measureOf after
      ({ conversion with precision := if precision < 0 then none else some precision.toNat },
        after, state)
    | _ => (conversion, rest, state)
  match rest with
  | [] => ({ state with fault := some .noLetter }, [])
  | letter :: after =>
    let spelled := "%" ++ String.ofList (text.take (text.length - after.length))
    (state.convert { conversion with letter } spelled, after)

/-- Writes by a format once. -/
def format (state : Printing) : (measure : Nat) → List Char → Printing
  | 0, _ => state
  | _ + 1, [] => state
  | measure + 1, c :: rest =>
    if state.isOver ∨ state.fault.isSome then state
    else
      match c, rest with
      | '\\', _ =>
        let (d, after) := Escape.read rest
        format (state.write (String.singleton d)) measure after
      | '%', '%' :: after => format (state.write "%") measure after
      | '%', _ =>
        let (state, after) := state.directive rest
        format state measure after
      | _, _ =>
        let plain := (c :: rest).takeWhile fun d => d != '\\' && d != '%'
        format (state.write (String.ofList plain)) measure ((c :: rest).drop plain.length)

/-- Writes by a format until no argument is left, but at least once. A format that takes none is
used once. -/
def repeatFormat (state : Printing) (text : List Char) : (measure : Nat) → Printing
  | 0 => state
  | measure + 1 =>
    let after := state.format (text.length + 1) text
    if after.isOver ∨ after.fault.isSome ∨ after.args.isEmpty ∨
        after.args.length = state.args.length then after
    else repeatFormat after text measure

/-- What is written by a format and arguments. -/
def print (format : String) (args : List String) : Printing :=
  repeatFormat { args } format.toList (args.length + 1)

/-- All that was written. -/
def text (state : Printing) : String := String.join state.pieces.reverse

end Printing

/-- The command `echo`. -/
def echo (shell : Shell) (args : List String) : Reply := { shell, output := echoText args }

/-- The command `printf`. -/
def printf (shell : Shell) (args : List String) : Reply :=
  match Argument.options "" args with
  | .error fault => .refuse shell (Argument.optionComplaint fault)
  | .ok (_, []) => .refuse shell "usage: printf format [arg ...]"
  | .ok (_, format :: args) =>
    let state := Printing.print format args
    { shell
      status := if state.fault.isSome then 2 else if state.complaints.isEmpty then 0 else 1
      output := state.text
      complaints := String.join (state.complaints.map fun complaint => shell.message complaint.message)
      fault := state.fault.map fun fault => .complaint fault.message }

end Builtin

end ArtifactLens.Shell
