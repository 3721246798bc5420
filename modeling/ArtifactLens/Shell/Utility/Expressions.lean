import ArtifactLens.Shell.Conversion
import ArtifactLens.Shell.Regex.Matching
import ArtifactLens.Shell.Regex.Reading
import ArtifactLens.Shell.Utility.Basic

/-!
# Expressions

The program `expr` reads its arguments as an expression over integers and texts.
-/

namespace ArtifactLens.Shell

namespace Utility

/-- Why an expression has no value. -/
inductive ExpressionFault where
  | missingAfter (word : String)
  | unexpected (word : String)
  | unexpectedParen
  | unclosed (word : String)
  | notInteger
  | zeroDivision
  | badRegex (complaint : String)

/-- The wording of a fault of an expression. -/
def ExpressionFault.message (call : Invocation) : ExpressionFault → String
  | .missingAfter word => "syntax error: missing argument after " ++ call.quote word
  | .unexpected word => "syntax error: unexpected argument " ++ call.quote word
  | .unexpectedParen => "syntax error: unexpected ')'"
  | .unclosed word => "syntax error: expecting ')' after " ++ call.quote word
  | .notInteger => "non-integer argument"
  | .zeroDivision => "division by zero"
  | .badRegex complaint => complaint

namespace Expression

/-- Words that were read, the last one first, and those that follow. -/
structure Reader where
  call : Invocation
  last : String := ""
  rest : List String

/-- Reading a piece of an expression. -/
abbrev Read := StateT Reader (Except ExpressionFault)

/-- The integer that a text spells. -/
def integer? (text : String) : Option Int :=
  match text.toList with
  | '-' :: digits =>
    if !digits.isEmpty ∧ digits.all Char.isDigit then some (-(Digit.numeral digits : Int)) else none
  | digits =>
    if !digits.isEmpty ∧ digits.all Char.isDigit then some (Digit.numeral digits) else none

/-- The value counts as false. -/
def isNull (text : String) : Bool :=
  text == "" ||
    let digits := match text.toList with
      | '-' :: rest => rest
      | all => all
    !digits.isEmpty && digits.all (· == '0')

/-- Takes the next word if it is one of some. -/
def oneOf (words : List String) : Read (Option String) := do
  let reader ← get
  match reader.rest with
  | word :: rest =>
    if words.contains word then
      set { reader with rest, last := word }
      return some word
    else return none
  | [] => return none

/-- Takes the next word. -/
def word : Read String := do
  let reader ← get
  match reader.rest with
  | [] => throw (.missingAfter reader.last)
  | word :: rest =>
    set { reader with rest, last := word }
    return word

/-- The length of a text in characters. -/
def lengthOf (call : Invocation) (text : String) : Nat := (call.glyphs text.toList).length

/-- What a text matches of an expression: the group in it, or else how many characters. -/
def matched (call : Invocation) (text pattern : String) : Except ExpressionFault String :=
  match Regex.parse .basic (call.glyphs pattern.toList) with
  | .error fault => .error (.badRegex fault.message)
  | .ok { regex, groups, .. } =>
    let subject : Regex.Subject := { chars := (call.glyphs text.toList).toArray, lineMark := some 0x0a }
    match Regex.furthest (regex.ends subject 0) with
    | none => .ok (if groups > 0 then "" else "0")
    | some spot =>
      if groups > 0 then
        match spot.groups.find? (·.1 == 1) with
        | some (_, first, last) =>
          .ok (String.ofList (call.ofGlyphs (subject.chars.extract first last).toList))
        | none => .ok ""
      else .ok (toString spot.position)

/-- The value of a comparison. -/
def compare (operator a b : String) : Bool :=
  let order : Ordering := match integer? a, integer? b with
    | some x, some y => Ord.compare x y
    | _, _ => Ord.compare a b
  match operator with
  | "<" => order == .lt
  | "<=" => order != .gt
  | "=" | "==" => order == .eq
  | "!=" => order != .eq
  | ">=" => order != .lt
  | _ => order == .gt

/-- The value of an operation on integers. -/
def calculate (operator a b : String) : Except ExpressionFault String :=
  match integer? a, integer? b with
  | some x, some y =>
    match operator with
    | "+" => .ok (toString (x + y))
    | "-" => .ok (toString (x - y))
    | "*" => .ok (toString (x * y))
    | "/" => if y = 0 then .error .zeroDivision else .ok (toString (x.tdiv y))
    | _ => if y = 0 then .error .zeroDivision else .ok (toString (x.tmod y))
  | _, _ => .error .notInteger

/-- The operators by how closely they bind, the loosest first. -/
def levels : List (List String) :=
  [["|"], ["&"], ["<", "<=", "=", "==", "!=", ">=", ">"], ["+", "-"], ["*", "/", "%"], [":"]]

/-- The value of an operator. -/
def apply (call : Invocation) (operator a b : String) : Except ExpressionFault String :=
  if operator = "|" then .ok (if !isNull a then a else if !isNull b then b else "0")
  else if operator = "&" then .ok (if isNull a ∨ isNull b then "0" else a)
  else if operator = ":" then matched call a b
  else if (levels.getD 2 []).contains operator then .ok (if compare operator a b then "1" else "0")
  else calculate operator a b

mutual

/-- Reads operations of a level and the levels below it. `needed` tells that the value matters. -/
def operations (needed : Bool) : (measure : Nat) → List (List String) → Read String
  | 0, _ => return ""
  | measure + 1, [] => primary needed measure
  | measure + 1, level :: below => do
    let first ← operations needed measure below
    continued needed measure level below first

/-- Reads further operations of a level after a value. -/
def continued (needed : Bool) :
    (measure : Nat) → List String → List (List String) → String → Read String
  | 0, _, _, value => return value
  | measure + 1, level, below, value => do
    match ← oneOf level with
    | none => return value
    | some operator =>
      let needs := needed && (if operator = "|" then isNull value
        else if operator = "&" then !isNull value else true)
      let other ← operations needs measure below
      if !needed then continued needed measure level below value
      else
        match apply (← get).call operator value other with
        | .ok value => continued needed measure level below value
        | .error fault => if needed then throw fault else continued needed measure level below value

/-- Reads a word, a group, or an operation that is written in front of its texts. -/
def primary (needed : Bool) : (measure : Nat) → Read String
  | 0 => return ""
  | measure + 1 => do
    let call := (← get).call
    let text ← word
    match text with
    | "(" =>
      let value ← operations needed measure levels
      let reader ← get
      match reader.rest with
      | ")" :: rest =>
        set { reader with rest, last := ")" }
        return value
      | _ => throw (.unclosed reader.last)
    | ")" => throw .unexpectedParen
    | "+" => word
    | "length" => return toString (lengthOf call (← operations needed measure []))
    | "match" =>
      let subject ← operations needed measure []
      let pattern ← operations needed measure []
      match matched call subject pattern with
      | .ok value => return value
      | .error fault => throw fault
    | "index" =>
      let subject ← operations needed measure []
      let wanted := call.glyphs (← operations needed measure []).toList
      let found := (call.glyphs subject.toList).findIdx? wanted.contains
      return toString ((found.map (· + 1)).getD 0)
    | "substr" =>
      let subject ← operations needed measure []
      let first ← operations needed measure []
      let count ← operations needed measure []
      match integer? first, integer? count with
      | some first, some count =>
        if first ≤ 0 ∨ count ≤ 0 then return ""
        else
          return String.ofList (call.ofGlyphs
            (((call.glyphs subject.toList).drop (first.toNat - 1)).take count.toNat))
      | _, _ => return ""
    | other => return other

end

/-- The value of words as an expression. -/
def value (call : Invocation) (words : List String) : Except ExpressionFault String :=
  match (operations true (16 * words.length + 16) levels).run { call, rest := words } with
  | .error fault => .error fault
  | .ok (value, reader) =>
    match reader.rest with
    | [] => .ok value
    | word :: _ => .error (if word = ")" then .unexpectedParen else .unexpected word)

end Expression

/-- The program `expr`. -/
def expr : Utility := fun call =>
  let words := match call.args with
    | "--" :: rest => rest
    | all => all
  if words.isEmpty then Job.misuse call "missing operand" 2
  else
    match Expression.value call words with
    | .ok value => Job.answer call (value ++ "\n") (if Expression.isNull value then 1 else 0)
    | .error fault => Job.fail call (fault.message call) 2

end Utility

end ArtifactLens.Shell
