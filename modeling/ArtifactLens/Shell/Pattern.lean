/-!
# Shell patterns

A pattern is a list of elements: characters, `*` for any text, `?` for any one character, and
bracketed sets. A quoted character always stands for itself. `Pattern.matches` compares a whole
text with a pattern.
-/

namespace ArtifactLens.Shell

/-- A member of a bracketed set. -/
inductive SetMember where
  | range (first last : Char)
  /-- A named class, such as the digits. -/
  | named (name : String)
  deriving DecidableEq, Repr

/-- An element of a pattern. -/
inductive PatternElement where
  | char (c : Char)
  | any
  | one
  | set (negated : Bool) (members : List SetMember)
  deriving DecidableEq, Repr

/-- A character of a pattern, which may have been quoted. -/
structure PatternChar where
  char : Char
  isQuoted : Bool
  deriving DecidableEq, Repr

namespace Pattern

/-- The character belongs to a named class. -/
def isInClass (name : String) (c : Char) : Bool :=
  match name with
  | "alpha" => c.isAlpha
  | "digit" => c.isDigit
  | "alnum" => c.isAlphanum
  | "upper" => c.isUpper
  | "lower" => c.isLower
  | "space" => c == ' ' || (0x09 ≤ c.toNat && c.toNat ≤ 0x0d)
  | "blank" => c == ' ' || c == '\t'
  | "punct" => 0x21 ≤ c.toNat && c.toNat ≤ 0x7e && !c.isAlphanum
  | "print" => 0x20 ≤ c.toNat && c.toNat ≤ 0x7e
  | "graph" => 0x21 ≤ c.toNat && c.toNat ≤ 0x7e
  | "cntrl" => c.toNat < 0x20 || c.toNat == 0x7f
  | "xdigit" => c.isDigit || ('a' ≤ c && c ≤ 'f') || ('A' ≤ c && c ≤ 'F')
  | _ => false

/-- The character belongs to a member of a set. -/
def SetMember.contains (c : Char) : SetMember → Bool
  | .range first last => first ≤ c && c ≤ last
  | .named name => isInClass name c

/-- Reads the name of a class up to `:]`. -/
def className? (text : List PatternChar) : Option (String × List PatternChar) :=
  let name := text.takeWhile fun c => c.char.isAlpha
  match text.drop name.length with
  | ⟨':', _⟩ :: ⟨']', _⟩ :: rest => some (String.ofList (name.map (·.char)), rest)
  | _ => none

/-- Reads the members of a set up to its bracket; `isFirst` tells that a bracket would be a member.
There is no result if the set is not closed. -/
def members? (isFirst : Bool) (done : List SetMember) :
    (measure : Nat) → List PatternChar → Option (List SetMember × List PatternChar)
  | 0, _ => none
  | _ + 1, [] => none
  | measure + 1, c :: rest =>
    if c.char = ']' ∧ !c.isQuoted ∧ !isFirst then some (done.reverse, rest)
    else
      let named := if c.char = '[' ∧ !c.isQuoted then
          match rest with
          | ⟨':', false⟩ :: more => className? more
          | _ => none
        else none
      match named with
      | some (name, rest) => members? false (.named name :: done) measure rest
      | none =>
        match rest with
        | ⟨'-', false⟩ :: last :: more =>
          if last.char = ']' ∧ !last.isQuoted then
            members? false (.range c.char c.char :: done) measure rest
          else members? false (.range c.char last.char :: done) measure more
        | _ => members? false (.range c.char c.char :: done) measure rest

/-- The elements of a pattern. A bracket that opens no set stands for itself; outside quotes a
backslash quotes the next character. -/
def elements : (measure : Nat) → List PatternChar → List PatternElement
  | 0, _ => []
  | _ + 1, [] => []
  | measure + 1, c :: rest =>
    if c.isQuoted then .char c.char :: elements measure rest
    else
      match c.char with
      | '*' => .any :: elements measure rest
      | '?' => .one :: elements measure rest
      | '\\' =>
        match rest with
        | d :: more => .char d.char :: elements measure more
        | [] => [.char '\\']
      | '[' =>
        let (negated, body) := match rest with
          | ⟨'!', false⟩ :: more => (true, more)
          | ⟨'^', false⟩ :: more => (true, more)
          | _ => (false, rest)
        match members? true [] (body.length + 1) body with
        | some (members, rest) => .set negated members :: elements measure rest
        | none => .char '[' :: elements measure rest
      | d => .char d :: elements measure rest

/-- The elements of a text taken as a pattern. -/
def ofChars (text : List PatternChar) : List PatternElement := elements (text.length + 1) text

/-- One character fits an element that stands for one. -/
def fits (c : Char) : PatternElement → Bool
  | .char d => c == d
  | .one => true
  | .any => false
  | .set negated members => members.any (SetMember.contains c) != negated

/-! ### Matching

A text is read once, with a flag for each place in the pattern: before each of its elements, and at
its end. A flag tells that what was read so far matches the pattern up to its place. -/

/-- The flags of a pattern before anything is read; `reached` is the first of them. -/
def begin (reached : Bool) : List PatternElement → List Bool
  | [] => [reached]
  | .any :: rest => reached :: begin reached rest
  | _ :: rest => reached :: begin false rest

/-- The flags after a character; `reached` is the first of them. -/
def advance (c : Char) (reached : Bool) : List PatternElement → List Bool → List Bool
  | .any :: rest, old :: flags => (reached || old) :: advance c (reached || old) rest flags
  | element :: rest, old :: flags => reached :: advance c (old && fits c element) rest flags
  | _, _ => [reached]

/-- The pattern is matched up to its end. -/
def isDone (flags : List Bool) : Bool := flags.getLastD false

/-- The whole text matches the pattern. -/
def isMatch (pattern : List PatternElement) (text : List Char) : Bool :=
  isDone (text.foldl (fun flags c => advance c false pattern flags) (begin true pattern))

/-- The sizes of the starts of a text that match the pattern, in increasing order; `size` is what
was read. -/
def startSizes (pattern : List PatternElement) (flags : List Bool) (size : Nat) :
    List Char → List Nat
  | [] => if isDone flags then [size] else []
  | c :: rest =>
    let later := startSizes pattern (advance c false pattern flags) (size + 1) rest
    if isDone flags then size :: later else later

/-- The size of the shortest or longest start of a text that matches the pattern. -/
def startSize? (pattern : List PatternElement) (longest : Bool) (text : List Char) : Option Nat :=
  let sizes := startSizes pattern (begin true pattern) 0 text
  if longest then sizes.getLast? else sizes.head?

/-- The pattern has an element that stands for more than one text. -/
def isWild (pattern : List PatternElement) : Bool :=
  pattern.any fun element =>
    match element with
    | .char _ => false
    | _ => true

/-- A text up to a null character. -/
def firstPiece (text : List Char) : List Char := text.takeWhile (· != '\x00')

/-- The text without its shortest or longest start that matches the pattern. A null character ends
what is looked at, but for the longest start more of the text may go. -/
def trimStart (pattern : List PatternElement) (longest : Bool) (text : List Char) : List Char :=
  let piece := firstPiece text
  match startSize? pattern longest piece with
  | some size =>
    if longest ∧ size = piece.length then [] else text.drop size
  | none => text

/-- The size of the shortest or longest end of a text that matches the pattern. -/
def endSize? (pattern : List PatternElement) (longest : Bool) (text : List Char) : Option Nat :=
  startSize? pattern.reverse longest text.reverse

/-- The text without its shortest or longest end that matches the pattern. A null character ends what
is looked at; the longest end begins before it. -/
def trimEnd (pattern : List PatternElement) (longest : Bool) (text : List Char) : List Char :=
  let piece := firstPiece text
  if longest ∨ piece.length = text.length then
    match endSize? pattern longest piece with
    | some size => text.take (piece.length - size)
    | none => text
  else
    match (List.range (text.length + 1)).reverse.find? fun size =>
        isMatch pattern (firstPiece (text.drop size)) with
    | some size => text.take size
    | none => text

end Pattern

end ArtifactLens.Shell
