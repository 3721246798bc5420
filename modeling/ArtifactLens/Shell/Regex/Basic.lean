import ArtifactLens.Shell.OctetText
import ArtifactLens.Shell.Pattern

/-!
# Regular expressions

Regular expressions over the characters of a text, and the classes of characters that they speak
of. How expressions are written and how they are matched is told elsewhere.
-/

namespace ArtifactLens.Shell

/-- A member of a set of characters. -/
inductive RegexMember where
  | range (first last : Nat)
  | named (name : String)
  deriving DecidableEq, Repr

/-- A regular expression. -/
inductive Regex where
  | empty
  | char (c : Nat)
  | any
  | oneOf (negated : Bool) (members : List RegexMember)
  | both (first second : Regex)
  | either (first second : Regex)
  | repeated (body : Regex) (least : Nat) (most : Option Nat)
  | group (number : Nat) (body : Regex)
  | lineStart
  | lineEnd
  | textStart
  | textEnd
  | wordStart
  | wordEnd
  | wordEdge
  | noWordEdge
  /-- What a group matched, once more. -/
  | again (number : Nat)
  deriving Repr

namespace Regex

/-! ### Characters -/

/-- Ranges of characters beyond ASCII that are marks and symbols. -/
def symbolRanges : List (Nat × Nat) :=
  [(0x80, 0xa9), (0xab, 0xb4), (0xb6, 0xb9), (0xbb, 0xbf), (0xd7, 0xd7), (0xf7, 0xf7),
    (0x2c2, 0x2c5), (0x2d2, 0x2df), (0x2e5, 0x2eb), (0x2ed, 0x2ed), (0x2ef, 0x36f), (0x37e, 0x37e),
    (0x387, 0x387), (0x482, 0x489), (0x55a, 0x55f), (0x589, 0x58f), (0x591, 0x5cf), (0x600, 0x61f),
    (0x2000, 0x2070), (0x2074, 0x207e), (0x2080, 0x208e), (0x20a0, 0x2101), (0x2103, 0x2106),
    (0x2190, 0x249b), (0x2500, 0x2bff), (0x2e00, 0x3004), (0x3008, 0x3020), (0x3030, 0x3030),
    (0xd800, 0xf8ff), (0xfe00, 0xfe6f), (0xfeff, 0xff0f), (0xff1a, 0xff20), (0xff3b, 0xff40),
    (0xff5b, 0xff65), (0xffe0, 0xffff), (0x1f000, 0x1faff)]

/-- A character beyond ASCII is a letter. -/
def isLetterBeyond (c : Nat) : Bool :=
  0x80 ≤ c && c < OctetText.strayBase && !symbolRanges.any fun range => range.1 ≤ c && c ≤ range.2

/-- A character beyond ASCII is a blank. -/
def isBlankBeyond (c : Nat) : Bool :=
  c == 0x1680 || (0x2000 ≤ c && c ≤ 0x200a && c != 0x2007) || c == 0x205f || c == 0x3000

/-- The other case of a letter. -/
def otherCase (c : Nat) : Nat :=
  let shifted (first last shift : Nat) : Option Nat :=
    if first ≤ c ∧ c ≤ last then some (c + shift)
    else if first + shift ≤ c ∧ c ≤ last + shift then some (c - shift) else none
  if c < 0x80 then (shifted 0x41 0x5a 32).getD c
  else if c = 0xd7 ∨ c = 0xf7 then c
  else
    match shifted 0xc0 0xde 32 <|> shifted 0x391 0x3a9 32 <|> shifted 0x410 0x42f 32 <|>
        shifted 0x400 0x40f 80 with
    | some other => other
    | none =>
      let evenPairs : Bool := (0x100 ≤ c && c ≤ 0x137 && c != 0x130 && c != 0x131) ||
        (0x14a ≤ c && c ≤ 0x177) || (0x1e00 ≤ c && c ≤ 0x1e95) || (0x460 ≤ c && c ≤ 0x481)
      let oddPairs : Bool := (0x139 ≤ c && c ≤ 0x148) || (0x179 ≤ c && c ≤ 0x17e)
      if evenPairs then (if c % 2 = 0 then c + 1 else c - 1)
      else if oddPairs then (if c % 2 = 1 then c + 1 else c - 1)
      else if c = 0xff then 0x178 else if c = 0x178 then 0xff
      else c

/-- The character belongs to a named class. -/
def isInClass (name : String) (c : Nat) : Bool :=
  if c < 0x80 then Pattern.isInClass name (Char.ofNat c)
  else if c ≥ OctetText.strayBase then false
  else
    match name with
    | "alpha" | "alnum" => isLetterBeyond c
    | "lower" => isLetterBeyond c && otherCase c < c && otherCase c != c
    | "upper" => isLetterBeyond c && c < otherCase c
    | "punct" => 0xa0 ≤ c && !isLetterBeyond c && !isBlankBeyond c
    | "print" => 0xa0 ≤ c
    | "graph" => 0xa0 ≤ c && !isBlankBeyond c
    | "cntrl" => c < 0xa0
    | "space" | "blank" => isBlankBeyond c
    | _ => false

/-- The character is one of words. -/
def isWordChar (c : Nat) : Bool := c == 0x5f || isInClass "alnum" c

/-- The expression that matches a text as it is. -/
def literal (text : List Nat) : Regex := text.foldr (fun c rest =>
  match rest with
  | .empty => .char c
  | rest => .both (.char c) rest) .empty

/-- Joins two expressions, one after the other. -/
def join (first second : Regex) : Regex :=
  match first with
  | .empty => second
  | _ => .both first second

end Regex

end ArtifactLens.Shell
