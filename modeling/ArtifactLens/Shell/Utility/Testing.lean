import ArtifactLens.Shell.Builtin.Condition
import ArtifactLens.Shell.Utility.Basic

/-!
# Testing

The program `test`. It reads the same conditions as the command of the shell, but by the number of
words: up to three words have a form that their number decides, and longer conditions are read as
pieces joined by `-a` and `-o`, where a piece takes as many words as it can.
-/

namespace ArtifactLens.Shell

namespace Utility

/-- Why words are no condition. -/
inductive ConditionFault where
  | nothingAfter (word : String)
  | excess (word : String)
  | noUnary (word : String)
  | noBinary (word : String)
  | notInteger (word : String)
  | notClosed
  | notClosedAt (word : String)

/-- The wording of a fault. -/
def ConditionFault.message (quote : String → String) : ConditionFault → String
  | .nothingAfter word => "missing argument after " ++ quote word
  | .excess word => "extra argument " ++ quote word
  | .noUnary word => quote word ++ ": unary operator expected"
  | .noBinary word => quote word ++ ": binary operator expected"
  | .notInteger word => "invalid integer " ++ quote word
  | .notClosed => quote ")" ++ " expected"
  | .notClosedAt word => quote ")" ++ " expected, found " ++ quote word

/-- A condition that is read: the words that are left, and the last word of all. -/
structure TestScan where
  disk : Disk
  here : FileNumber
  last : String

namespace TestScan

/-- Reading a piece of a condition: its truth and the words after it. -/
abbrev Outcome := Except ConditionFault (Bool × List String)

/-- The word joins two operands. -/
def isBinary (word : String) : Bool :=
  word == "==" || (Condition.isBinary word && word != "<" && word != ">")

/-- The word is a dash and a letter. -/
def isFlag (word : String) : Bool := word.length == 2 && word.startsWith "-"

/-- The words after a word that others must follow. -/
def after (scan : TestScan) (words : List String) : Except ConditionFault (List String) :=
  if words.isEmpty then .error (.nothingAfter scan.last) else .ok words

/-- The value of a number. -/
def integer (text : String) : Except ConditionFault Int :=
  let chars := (text.toList.dropWhile Arithmetic.isSpace).reverse.dropWhile Arithmetic.isSpace
  let (negative, digits) := match chars.reverse with
    | '-' :: rest => (true, rest)
    | '+' :: rest => (false, rest)
    | rest => (false, rest)
  if digits.isEmpty ∨ !digits.all Char.isDigit then .error (.notInteger text)
  else
    let value : Int := Digit.numeral digits
    .ok (if negative then -value else value)

/-- A test of one operand. -/
def unary (scan : TestScan) : List String → Outcome
  | [] => .error (.nothingAfter scan.last)
  | flag :: rest =>
    let known := flag == "-N" || Condition.unaries.contains flag
    if !known then .error (.noUnary flag)
    else
      match rest with
      | [] => .error (.nothingAfter scan.last)
      | operand :: rest =>
        if flag = "-t" then (integer operand).map fun _ => (false, rest)
        else
          match Condition.unary scan.disk scan.here flag operand with
          | .ok value => .ok (value, rest)
          | .error _ => .ok (false, rest)

/-- A test of two operands. -/
def binary (scan : TestScan) : List String → Outcome
  | first :: operator :: second :: rest => do
    let numeric := ["-eq", "-ne", "-lt", "-le", "-gt", "-ge"].contains operator
    if numeric then
      let a ← integer first
      let b ← integer second
      let value := match operator with
        | "-eq" => a == b
        | "-ne" => a != b
        | "-lt" => decide (a < b)
        | "-le" => decide (a ≤ b)
        | "-gt" => decide (b < a)
        | _ => decide (b ≤ a)
      return (value, rest)
    else if operator = "-nt" ∨ operator = "-ot" then
      -- A file that is not there is older than any that is.
      let a := Condition.modified? scan.disk scan.here first
      let b := Condition.modified? scan.disk scan.here second
      let isNewer (a b : Option Int) : Bool := a.any fun a => b.all (· < a)
      return (if operator = "-nt" then isNewer a b else isNewer b a, rest)
    else
      match Condition.binary scan.disk scan.here (if operator = "==" then "=" else operator) first
          second with
      | .ok value => return (value, rest)
      | .error _ => return (false, rest)
  | _ => .error (.nothingAfter scan.last)

/-- A condition of one word. -/
def one (scan : TestScan) : List String → Outcome
  | [] => .error (.nothingAfter scan.last)
  | word :: rest => .ok (word != "", rest)

/-- A condition of two words. -/
def two (scan : TestScan) : List String → Outcome
  | first :: rest =>
    if first = "!" then (scan.one rest).map fun (value, rest) => (!value, rest)
    else if isFlag first then scan.unary (first :: rest)
    else .error (.nothingAfter scan.last)
  | [] => .error (.nothingAfter scan.last)

mutual

/-- A condition of so many words. -/
def counted (scan : TestScan) : (measure count : Nat) → List String → Outcome
  | 0, _, _ => .error .notClosed
  | measure + 1, count, words =>
    match count, words with
    | 1, words => scan.one words
    | 2, words => scan.two words
    | 3, words => three scan measure words
    | 4, first :: rest =>
      if first = "!" then do
        let (value, rest) ← three scan measure (← scan.after rest)
        return (!value, rest)
      else if first = "(" ∧ rest[2]? = some ")" then do
        let (value, rest) ← scan.two rest
        return (value, rest.drop 1)
      else disjunction scan measure (first :: rest)
    | _, words => disjunction scan measure words

/-- A condition of three words. -/
def three (scan : TestScan) : (measure : Nat) → List String → Outcome
  | 0, _ => .error .notClosed
  | measure + 1, words =>
    match words with
    | first :: second :: rest =>
      if isBinary second then scan.binary words
      else if first = "!" then do
        let (value, rest) ← scan.two (second :: rest)
        return (!value, rest)
      else if first = "(" ∧ rest.head? = some ")" then do
        let (value, rest) ← scan.one (second :: rest)
        return (value, rest.drop 1)
      else if second = "-a" ∨ second = "-o" then disjunction scan measure words
      else .error (.noBinary second)
    | _ => .error (.nothingAfter scan.last)

/-- Pieces joined by `-o`. -/
def disjunction (scan : TestScan) : (measure : Nat) → List String → Outcome
  | 0, _ => .error .notClosed
  | measure + 1, words => do
    let (value, rest) ← conjunction scan measure words
    match rest with
    | "-o" :: rest =>
      let (other, rest) ← disjunction scan measure rest
      return (value || other, rest)
    | rest => return (value, rest)

/-- Pieces joined by `-a`. -/
def conjunction (scan : TestScan) : (measure : Nat) → List String → Outcome
  | 0, _ => .error .notClosed
  | measure + 1, words => do
    let (value, rest) ← term scan measure words
    match rest with
    | "-a" :: rest =>
      let (other, rest) ← conjunction scan measure rest
      return (value && other, rest)
    | rest => return (value, rest)

/-- A piece, which may be negated or stand in parentheses. -/
def term (scan : TestScan) : (measure : Nat) → List String → Outcome
  | 0, _ => .error .notClosed
  | measure + 1, words => do
    match ← scan.after words with
    | "!" :: rest =>
      let (value, rest) ← term scan measure (← scan.after rest)
      return (!value, rest)
    | "(" :: rest =>
      let inner ← scan.after rest
      -- A closing parenthesis among the next words tells how many stand within.
      let near := ((inner.drop 1).take 3).takeWhile (· != ")")
      let count := if near.length < ((inner.drop 1).take 3).length ∨ inner.length < 4
        then near.length + 1 else inner.length
      let (value, rest) ← counted scan measure count inner
      match rest with
      | [] => throw .notClosed
      | ")" :: rest => return (value, rest)
      | word :: _ => throw (.notClosedAt word)
    | first :: rest =>
      if (rest.head?.any isBinary) ∧ rest.length ≥ 2 then scan.binary (first :: rest)
      else if isFlag first then scan.unary (first :: rest)
      else return (first != "", rest)
    | [] => throw (.nothingAfter scan.last)

end

/-- The truth of a condition. -/
def evaluate (disk : Disk) (here : FileNumber) (words : List String) : Except ConditionFault Bool :=
  let scan : TestScan := { disk, here, last := words.getLastD "" }
  if words.isEmpty then .ok false
  else
    match scan.counted (4 * words.length + 8) words.length words with
    | .ok (value, []) => .ok value
    | .ok (_, word :: _) => .error (.excess word)
    | .error fault => .error fault

end TestScan

/-- The program `test`, which is also called `[`. -/
def test : Utility := fun call =>
  let isBracket := call.name.endsWith "["
  if isBracket ∧ call.args.getLast? ≠ some "]" then
    Job.fail call ("missing " ++ call.quote "]") 2
  else
    let words := if isBracket then call.args.dropLast else call.args
    .disk fun disk stand =>
      (disk, match TestScan.evaluate disk stand.directory words with
        | .ok value => .exit (if value then 0 else 1)
        | .error fault => Job.fail call (fault.message call.quote) 2)

end Utility

end ArtifactLens.Shell
