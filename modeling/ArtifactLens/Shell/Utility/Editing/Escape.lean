import ArtifactLens.Shell.Utility.Editing.Script
import ArtifactLens.Text.Digit

/-!
# Escapes in scripts

A backslash with a letter stands for a control character, and with a number for the octet of that
number. In an expression such an octet keeps the meaning that it has there; in a replacement or a
text it stands for itself.
-/

namespace ArtifactLens.Shell

namespace Utility.Editing.Escape

/-- Takes digits of a base, at most so many. -/
def digits (base most : Nat) (text : List Char) : List Char :=
  (text.take most).takeWhile fun c => (Digit.hexValue? c).any (· < base)

/-- The octet that the text after a backslash stands for, if it does for one, and what follows. -/
def octet? : List Char → Except Fault (Option (Char × List Char))
  | 'a' :: rest => .ok (some ('\x07', rest))
  | 'f' :: rest => .ok (some ('\x0c', rest))
  | 'n' :: rest => .ok (some ('\n', rest))
  | 'r' :: rest => .ok (some ('\r', rest))
  | 't' :: rest => .ok (some ('\t', rest))
  | 'v' :: rest => .ok (some ('\x0b', rest))
  | 'd' :: rest => .ok (numbered 10 3 rest)
  | 'o' :: rest => .ok (numbered 8 3 rest)
  | 'x' :: rest => .ok (numbered 16 2 rest)
  | 'c' :: '\\' :: '\\' :: rest => .ok (some (control '\\', rest))
  | 'c' :: '\\' :: _ => .error .recursiveEscape
  | 'c' :: c :: rest => .ok (some (control c, rest))
  | _ => .ok none
where
  /-- The octet of a number. -/
  numbered (base most : Nat) (rest : List Char) : Option (Char × List Char) :=
    match digits base most rest with
    | [] => none
    | found =>
      let number := found.foldl (fun n c => base * n + (Digit.hexValue? c).getD 0) 0
      some (Char.ofNat (number % 256), rest.drop found.length)
  /-- The control character of a letter. -/
  control (c : Char) : Char := Char.ofNat (c.toUpper.toNat ^^^ 0x40)

/-- Replaces the escapes of an expression. -/
def inPattern : (measure : Nat) → List Char → Except Fault (List Char)
  | 0, text => .ok text
  | _ + 1, [] => .ok []
  | measure + 1, '\\' :: rest => do
    match ← octet? rest with
    | some (c, rest) => return c :: (← inPattern measure rest)
    | none =>
      match rest with
      | ['c'] => return ['\\']
      | c :: rest => return '\\' :: c :: (← inPattern measure rest)
      | [] => return ['\\']
  | measure + 1, c :: rest => return c :: (← inPattern measure rest)

/-- Replaces the escapes of a text; any other backslash takes the meaning of the next character
away. -/
def inText : (measure : Nat) → List Char → Except Fault (List Char)
  | 0, text => .ok text
  | _ + 1, [] => .ok []
  | measure + 1, '\\' :: rest => do
    match ← octet? rest with
    | some (c, rest) => return c :: (← inText measure rest)
    | none =>
      match rest with
      | ['c'] => return ['\\', 'c']
      | c :: rest => return c :: (← inText measure rest)
      | [] => return []
  | measure + 1, c :: rest => return c :: (← inText measure rest)

/-- The pieces of a replacement; `done` holds text in reverse. -/
def inReplacement (done : List Char) : (measure : Nat) → List Char → Except Fault (List Piece)
  | 0, _ => .ok [.text done.reverse]
  | _ + 1, [] => .ok [.text done.reverse]
  | measure + 1, '\\' :: rest => do
    match ← octet? rest with
    | some (c, rest) => inReplacement (c :: done) measure rest
    | none =>
      let piece (piece : Piece) (rest : List Char) : Except Fault (List Piece) :=
        return .text done.reverse :: piece :: (← inReplacement [] measure rest)
      match rest with
      | ['c'] | [] => return [.text ('\\' :: done).reverse]
      | 'U' :: rest => piece (.change .upper) rest
      | 'L' :: rest => piece (.change .lower) rest
      | 'u' :: rest => piece (.change .upperNext) rest
      | 'l' :: rest => piece (.change .lowerNext) rest
      | 'E' :: rest => piece (.change .none) rest
      | c :: rest =>
        if c.isDigit then piece (.group (c.toNat - '0'.toNat)) rest
        else inReplacement (c :: done) measure rest
  | measure + 1, '&' :: rest => return .text done.reverse :: .group 0 :: (← inReplacement [] measure rest)
  | measure + 1, c :: rest => inReplacement (c :: done) measure rest

end Utility.Editing.Escape

end ArtifactLens.Shell
