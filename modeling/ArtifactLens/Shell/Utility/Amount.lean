import ArtifactLens.Shell.Arithmetic
import ArtifactLens.Shell.Utility.Quoting

/-!
# Amounts

Whole numbers as they are given to options: decimal digits, and after them perhaps a letter for a
multiple such as `k` or `MB`. `Amount.read` tells the value of a text, `Amount.within` asks that it
lies in a range, and `Amount.complaint` says what is wrong with it.
-/

namespace ArtifactLens.Shell

namespace Utility.Amount

/-- Why a text is no amount. -/
inductive Fault where
  | invalid
  /-- The value is beyond what numbers can hold. -/
  | tooLarge
  | outOfRange
  deriving DecidableEq

/-- The power of the base of multiples that a letter stands for. -/
def power? (letter : Char) : Option Nat :=
  match letter with
  | 'k' | 'K' => some 1
  | 'm' | 'M' => some 2
  | 'g' | 'G' => some 3
  | 't' | 'T' => some 4
  | 'P' => some 5
  | 'E' => some 6
  | 'Z' => some 7
  | 'Y' => some 8
  | _ => none

/-- The multiple that a suffix stands for, if its first letter is among some. Where a `0` is among
them, `B` or `D` after a letter makes it a power of ten, and `iB` one of two. -/
def multiple? (letters : String) (suffix : List Char) : Option Nat :=
  match suffix with
  | [] => some 1
  | letter :: rest =>
    if !letters.contains letter then none
    else
      match letter, rest with
      | 'b', [] => some 512
      | 'B', [] => some 1024
      | 'c', [] => some 1
      | 'w', [] => some 2
      | _, _ =>
        match power? letter, rest with
        | some power, [] => some (1024 ^ power)
        | some power, ['B'] | some power, ['D'] =>
          if letters.contains '0' then some (1000 ^ power) else none
        | some power, ['i', 'B'] => if letters.contains '0' then some (1024 ^ power) else none
        | _, _ => none

/-- The value of a text, whose suffix may begin with one of some letters; a sign is allowed in
front, and a minus only if the value may be negative. -/
def read (letters : String) (signed : Bool) (text : String) : Except Fault Int :=
  let body := text.toList.dropWhile Arithmetic.isSpace
  let (negative, body) := match body with
    | '-' :: rest => (true, rest)
    | '+' :: rest => (false, rest)
    | rest => (false, rest)
  let digits := body.takeWhile Char.isDigit
  let suffix := body.drop digits.length
  let isBare := digits.isEmpty
  -- A letter alone stands for one of its multiple, if nothing at all comes before it.
  if (negative ∧ !signed) ∨ (isBare ∧ (suffix.isEmpty ∨ suffix.length ≠ text.length)) then
    .error .invalid
  else
    match multiple? letters suffix with
    | none => .error .invalid
    | some multiple =>
      let value := (if isBare then 1 else Digit.numeral digits) * multiple
      let (least, most) : Int × Int := if signed then (-(2 ^ 63), 2 ^ 63 - 1) else (0, 2 ^ 64 - 1)
      let value : Int := if negative then -(value : Int) else value
      if value < least ∨ most < value then .error .tooLarge else .ok value

/-- The digits at the start of a text that count in a base, of which zero means that the text tells: a mark
for sixteen, or a zero for eight. The base comes with them, and what follows. -/
def digitsIn (base : Nat) (text : List Char) : List Char × Nat × List Char :=
  let isDigit (base : Nat) (c : Char) : Bool := (Digit.hexValue? c).any (· < base)
  let marked? : Option (List Char) := match text with
    | '0' :: x :: c :: rest =>
      if (x = 'x' ∨ x = 'X') ∧ isDigit 16 c ∧ (base = 0 ∨ base = 16) then some (c :: rest) else none
    | _ => none
  let (base, text) := match marked?, text with
    | some rest, _ => (16, rest)
    | none, '0' :: _ => (if base = 0 then 8 else base, text)
    | none, _ => (if base = 0 then 10 else base, text)
  let digits := text.takeWhile (isDigit base)
  (digits, base, text.drop digits.length)

/-- Reads the natural number at the start of a text in a base, where zero lets the text tell it, and the
multiple after it, whose letter is among some; what follows comes with the value. -/
def scan? (base : Nat) (letters : String) (text : List Char) : Option (Nat × List Char) :=
  let isSuffix (c : Char) : Bool := letters.contains c && (multiple? letters [c]).isSome
  let (body, isSigned) := match text.dropWhile Arithmetic.isSpace with
    | '+' :: rest => (rest, true)
    | rest => (rest, false)
  let (digits, base, rest) := digitsIn base body
  let value? : Option Nat :=
    if !digits.isEmpty then
      some (digits.foldl (fun n c => base * n + (Digit.hexValue? c).getD 0) 0)
    else if !isSigned ∧ body.length = text.length ∧ text.head?.any (fun c => letters.contains c) then some 1
    else none
  value?.map fun value =>
    match rest with
    | letter :: more =>
      if !isSuffix letter then (value, rest)
      else
        let extra := match more with
          | 'i' :: 'B' :: _ => 2
          | 'B' :: _ | 'D' :: _ => 1
          | _ => 0
        let suffix := letter :: more.take extra
        match multiple? letters suffix with
        | some multiple => (value * multiple, rest.drop suffix.length)
        | none => (value * (multiple? letters [letter]).getD 1, more)
    | [] => (value, [])

/-- The value of a text, which is to lie in a range. -/
def within (letters : String) (signed : Bool) (least most : Int) (text : String) :
    Except Fault Int := do
  let value ← read letters signed text
  if value < least ∨ most < value then
    throw (if value > 1073741823 ∨ value < -1073741824 then .tooLarge else .outOfRange)
  else return value

/-- What is said of a text that is no amount. -/
def complaint (call : Invocation) (noun text : String) (fault : Fault) : String :=
  noun ++ ": " ++ call.quote text ++
    match fault with
    | .invalid => ""
    | .tooLarge => ": Value too large for defined data type"
    | .outOfRange => ": Numerical result out of range"

/-- Goes on with the value of an option's text, or complains about it and ends. -/
def take (call : Invocation) (letters : String) (least most : Nat) (noun text : String)
    (next : Nat → Job) (status : Nat := 1) : Job :=
  match within letters false least most text with
  | .ok value => next value.toNat
  | .error fault => Job.fail call (complaint call noun text fault) status

/-- The greatest number that counts can reach. -/
def greatest : Nat := 2 ^ 64 - 1

end Utility.Amount

end ArtifactLens.Shell
