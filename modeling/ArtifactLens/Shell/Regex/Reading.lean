import ArtifactLens.Shell.Regex.Basic
import ArtifactLens.Text.Digit

/-!
# Reading regular expressions

The notations in which regular expressions are written (`Regex.Style`), and how they are read: a
text is taken apart into tokens one by one, of which alternatives, branches and pieces are made.
-/

namespace ArtifactLens.Shell

namespace Regex

/-- What a repetition is without anything to repeat. -/
inductive Lonely where
  | literal
  | refused
  | skipped
  deriving DecidableEq, Repr

/-- How expressions are written. -/
structure Style where
  /-- Parentheses, braces, bars and repetitions are signs without a backslash. -/
  isBare : Bool := false
  /-- `+` and `?` repeat without a backslash. -/
  hasBareRepeats : Bool := isBare
  /-- There are bounds of repetitions in braces. -/
  hasBounds : Bool := true
  /-- Anchors are anchors everywhere. -/
  anchorsEverywhere : Bool := isBare
  lonely : Lonely := .literal
  /-- Bounds without anything to repeat, and repetitions of repetitions, are faults. -/
  refusesBounds : Bool := false
  /-- A closing parenthesis without an opening one stands for itself. -/
  allowsStray : Bool := false
  /-- Braces around what are no bounds stand for themselves. -/
  allowsBraces : Bool := false
  /-- A range whose ends are the wrong way round is a fault. -/
  refusesRanges : Bool := true
  /-- Neither a dot nor the complement of a set matches a newline. -/
  sparesNewline : Bool := false
  /-- A dot does not match a newline. -/
  dotSparesNewline : Bool := sparesNewline
  /-- A backslash before a letter, and before a sign that the basic notation of the standard lacks,
  has no meaning. -/
  isStrict : Bool := false

namespace Style

/-- The basic notation of the standard. -/
def basic : Style := { refusesBounds := true }

/-- The extended notation of the standard, where a stray parenthesis is a fault. -/
def extended : Style := { isBare := true, lonely := .refused }

/-- The basic notation of searches. -/
def searchBasic : Style := {}

/-- The extended notation of searches. -/
def searchExtended : Style :=
  { isBare := true, lonely := .skipped, allowsStray := true, allowsBraces := true }

/-- A notation without bounds, whose `+` and `?` are bare. -/
def plain : Style := { hasBareRepeats := true, hasBounds := false, refusesRanges := false }

/-- The same notation for texts of several lines, which a dot does not go over. -/
def plainLines : Style := { plain with dotSparesNewline := true }

end Style

/-- Why an expression is refused. -/
inductive Fault where
  | pattern
  | collation
  | className
  | trailingBackslash
  | backReference
  | bracket
  | parenthesis
  | brace
  | bounds
  | range
  | repetition
  | size
  | closing
  deriving DecidableEq, Repr

/-- The wording of a fault. -/
def Fault.message : Fault → String
  | .pattern => "Invalid regular expression"
  | .collation => "Invalid collation character"
  | .className => "Invalid character class name"
  | .trailingBackslash => "Trailing backslash"
  | .backReference => "Invalid back reference"
  | .bracket => "Unmatched [, [^, [:, [., or [="
  | .parenthesis => "Unmatched ( or \\("
  | .brace => "Unmatched \\\x7b"
  | .bounds => "Invalid content of \\\x7b\\\x7d"
  | .range => "Invalid range end"
  | .repetition => "Invalid preceding regular expression"
  | .size => "Regular expression too big"
  | .closing => "Unmatched ) or \\)"

/-! ### Tokens -/

/-- A token of an expression. -/
inductive Token where
  | char (c : Nat)
  | piece (regex : Regex)
  | anchor (regex : Regex)
  | again (number : Nat)
  | opening
  | closing
  | alternative
  | star
  | plus
  | question
  | openBound
  | closeBound
  | bracket
  | backslash
  | finish

/-- The letters of words as a set. -/
def wordMembers : List RegexMember := [.named "alnum", .range 0x5f 0x5f]

/-- The characters that have a meaning after a backslash, though not in the standard. -/
def extensions : List Char := ['|', '<', '>', 'b', 'B', '\x60', '\'', 'w', 'W', 's', 'S', '+', '?']

/-- The sign that follows a backslash. -/
def escaped (style : Style) (c : Nat) : Token :=
  let signIf (holds : Bool) (token : Token) : Token := if holds then token else .char c
  if style.isStrict ∧ extensions.contains (Char.ofNat c) then .char c
  else match Char.ofNat c with
  | '|' => signIf (!style.isBare) .alternative
  | '<' => .anchor .wordStart
  | '>' => .anchor .wordEnd
  | 'b' => .anchor .wordEdge
  | 'B' => .anchor .noWordEdge
  | '\x60' => .anchor .textStart
  | '\'' => .anchor .textEnd
  | 'w' => .piece (.oneOf false wordMembers)
  | 'W' => .piece (.oneOf true wordMembers)
  | 's' => .piece (.oneOf false [.named "space"])
  | 'S' => .piece (.oneOf true [.named "space"])
  | '(' => signIf (!style.isBare) .opening
  | ')' => signIf (!style.isBare) .closing
  | '+' => signIf (!style.hasBareRepeats) .plus
  | '?' => signIf (!style.hasBareRepeats) .question
  | '\x7b' => signIf (style.hasBounds && !style.isBare) .openBound
  | '\x7d' => signIf (style.hasBounds && !style.isBare) .closeBound
  | c => if '1' ≤ c ∧ c ≤ '9' then .again (c.toNat - 0x30) else .char c.toNat

/-- The sign that a character is by itself; those that depend on their place are left out. -/
def unescaped (style : Style) (c : Nat) : Token :=
  let signIf (holds : Bool) (token : Token) : Token := if holds then token else .char c
  match Char.ofNat c with
  | '|' => signIf style.isBare .alternative
  | '*' => .star
  | '+' => signIf style.hasBareRepeats .plus
  | '?' => signIf style.hasBareRepeats .question
  | '\x7b' => signIf (style.hasBounds && style.isBare) .openBound
  | '\x7d' => signIf (style.hasBounds && style.isBare) .closeBound
  | '(' => signIf style.isBare .opening
  | ')' => signIf style.isBare .closing
  | '[' => .bracket
  | '.' => .piece (if style.dotSparesNewline then .oneOf true [.range 0x0a 0x0a] else .any)
  | _ => .char c

/-- The state of reading: the token at hand, and the text after it. -/
structure Scanner where
  style : Style
  token : Token := .finish
  rest : List Nat
  /-- Something stands before the text that is left. -/
  begun : Bool := false
  groups : Nat := 0
  /-- Groups that are complete. -/
  closed : List Nat := []
  warnings : List String := []
  /-- There is a set that looks like the name of a class. -/
  looksNamed : Bool := false

/-- Reading an expression. -/
abbrev Scan := StateT Scanner (Except Fault)

/-- The token at the start of a text, and what is left; where `isHere` holds an anchor may stand. -/
def tokenAt (style : Style) (isHere begun : Bool) : List Nat → Token × List Nat
  | [] => (.finish, [])
  | [0x5c] => (.backslash, [])
  | 0x5c :: c :: rest => (escaped style c, rest)
  | c :: rest =>
    if c = 0x5e then
      (if style.anchorsEverywhere || isHere || !begun then .anchor .lineStart else .char c, rest)
    else if c = 0x24 then
      let isLast : Bool := match rest with
        | [] => true
        | [_] => style.isBare && (rest == [0x7c] || rest == [0x29])
        | a :: b :: _ =>
          if style.isBare then a == 0x7c || a == 0x29
          else a == 0x5c && (b == 0x7c || b == 0x29)
      (if style.anchorsEverywhere || isLast then .anchor .lineEnd else .char c, rest)
    else (unescaped style c, rest)

/-- Goes on to the next token. -/
def fetch (isHere : Bool := false) : Scan Unit :=
  modify fun scanner =>
    let (token, rest) := tokenAt scanner.style isHere scanner.begun scanner.rest
    { scanner with token, rest, begun := true }

/-! ### Sets -/

/-- A token within brackets. -/
inductive SetToken where
  | char (c : Nat)
  | dash
  | close
  /-- The opening of a name; the character marks its kind. -/
  | name (mark : Nat)
  | finish

/-- The token within brackets at the start of a text, and what is left. -/
def setTokenAt : List Nat → SetToken × List Nat
  | [] => (.finish, [])
  | 0x5b :: c :: rest =>
    if c = 0x2e ∨ c = 0x3d ∨ c = 0x3a then (.name c, rest) else (.char 0x5b, c :: rest)
  | 0x5d :: rest => (.close, rest)
  | 0x2d :: 0x2d :: 0x2d :: rest => (.char 0x2d, rest)
  | 0x2d :: rest => (.dash, rest)
  | c :: rest => (.char c, rest)

/-- An element of a set. -/
inductive SetElement where
  | char (c : Nat)
  | equivalents (name : List Nat)
  | collation (name : List Nat)
  | named (name : String)

/-- Reads a name up to its mark and a closing bracket. -/
def setName (mark : Nat) (done : List Nat) : List Nat → Except Fault (List Nat × List Nat)
  | [] | [_] => .error .bracket
  | c :: 0x5d :: rest =>
    if c = mark then .ok (done.reverse, rest)
    else if done.length ≥ 32 then .error .bracket
    else setName mark (c :: done) (0x5d :: rest)
  | c :: rest =>
    if done.length ≥ 32 then .error .bracket else setName mark (c :: done) rest

/-- Reads an element, given its first token. -/
def setElement (token : SetToken) (rest : List Nat) (takesDash : Bool) :
    Except Fault (SetElement × List Nat) :=
  match token with
  | .char c => .ok (.char c, rest)
  | .close => .ok (.char 0x5d, rest)
  | .dash =>
    match takesDash, (setTokenAt rest).1 with
    | false, .close | true, _ => .ok (.char 0x2d, rest)
    | false, _ => .error .range
  | .name mark => do
    let (name, rest) ← setName mark [] rest
    let text := String.ofList (name.map Char.ofNat)
    return (if mark = 0x3a then .named text
      else if mark = 0x3d then .equivalents name else .collation name, rest)
  | .finish => .error .bracket

/-- The names of classes. -/
def classNames : List String :=
  ["alnum", "cntrl", "lower", "space", "alpha", "digit", "print", "upper", "blank", "graph", "punct",
    "xdigit"]

/-- The one character that a name stands for. -/
def soleChar (name : List Nat) : Except Fault Nat :=
  match name with
  | [c] => if c < 0x80 then .ok c else .error .collation
  | _ => .error .collation

/-- What an element adds to a set. -/
def setMember : SetElement → Except Fault RegexMember
  | .char c => .ok (.range c c)
  | .equivalents name | .collation name => (soleChar name).map fun c => .range c c
  | .named name => if classNames.contains name then .ok (.named name) else .error .className

/-- The end of a range. -/
def rangeEnd : SetElement → Except Fault Nat
  | .char c => .ok c
  | .collation name => soleChar name
  | .equivalents _ | .named _ => .error .range

/-- Reads the members of a set; `isFirst` tells that none was read before. -/
def setMembers (refusesRanges isFirst : Bool) (done : List RegexMember) :
    (measure : Nat) → List Nat → Except Fault (List RegexMember × List Nat)
  | 0, _ => .error .bracket
  | measure + 1, text => do
    let (token, rest) := setTokenAt text
    match token, isFirst with
    | .close, false => return (done.reverse, rest)
    | token, _ =>
      let (element, rest) ← setElement token rest isFirst
      let single : Except Fault (List RegexMember × List Nat) := do
        let member ← setMember element
        setMembers refusesRanges false (member :: done) measure rest
      match element with
      | .named _ | .equivalents _ => single
      | _ =>
        match setTokenAt rest with
        | (.finish, _) => throw .bracket
        | (.dash, after) =>
          match setTokenAt after with
          | (.finish, _) => throw .bracket
          | (.close, after) =>
            let member ← setMember element
            return ((.range 0x2d 0x2d :: member :: done).reverse, after)
          | (next, after) =>
            let (last, rest) ← setElement next after true
            let first ← rangeEnd element
            let last ← rangeEnd last
            if last < first ∧ refusesRanges then throw .range
            setMembers refusesRanges false (.range first last :: done) measure rest
        | _ => single

/-- The members of a set were written like the name of a class, without its second brackets. -/
def looksNamed (members : List RegexMember) : Bool :=
  let chars := members.filterMap fun member =>
    match member with
    | .range first last => if first = last then some first else none
    | .named _ => none
  chars.length == members.length && chars.head? == some 0x3a && chars.getLast? == some 0x3a &&
    chars.any (· != 0x3a)

/-- Reads a set from after its opening bracket. -/
def set : Scan Regex := do
  let scanner ← get
  let negated := scanner.rest.head? == some 0x5e
  let rest := if negated then scanner.rest.drop 1 else scanner.rest
  if rest.isEmpty then throw .pattern
  match setMembers scanner.style.refusesRanges true [] (rest.length + 1) rest with
  | .error fault => throw fault
  | .ok (members, rest) =>
    StateT.set { scanner with rest, looksNamed := scanner.looksNamed || looksNamed members }
    let spared := negated && scanner.style.sparesNewline
    return .oneOf negated (if spared then .range 0x0a 0x0a :: members else members)

/-! ### Bounds -/

/-- The most repetitions that bounds may ask for. -/
def mostRepeats : Nat := 0x7fff

/-- A number among bounds. -/
inductive BoundNumber where
  | missing
  | invalid
  | given (n : Nat)

/-- Reads a number up to a comma, the closing brace or the end. -/
def boundNumber (number : BoundNumber) : (measure : Nat) → Scan BoundNumber
  | 0 => return .invalid
  | measure + 1 => do
    fetch
    match (← get).token with
    | .finish => return .invalid
    | .closeBound | .char 0x2c => return number
    | .char c =>
      if 0x30 ≤ c ∧ c ≤ 0x39 then
        let digit := c - 0x30
        boundNumber (match number with
          | .missing => .given digit
          | .given n => .given (min (mostRepeats + 1) (10 * n + digit))
          | .invalid => .invalid) measure
      else boundNumber .invalid measure
    | _ => boundNumber .invalid measure

/-- Reads bounds from their opening brace on; none are read where braces may stand for
themselves. -/
def bounds : Scan (Option (Nat × Option Nat)) := do
  let start ← get
  let measure := start.rest.length + 2
  let invalid : Scan (Option (Nat × Option Nat)) := do
    let scanner ← get
    if start.style.allowsBraces then
      StateT.set { start with token := .char 0x7b }
      return none
    else
      match scanner.token with
      | .finish => throw .brace
      | _ => throw .bounds
  let least ← boundNumber .missing measure
  let atComma (scanner : Scanner) : Bool := match scanner.token with
    | .char c => c == 0x2c
    | _ => false
  let isComma := atComma (← get)
  match least, isComma with
  | .invalid, _ => invalid
  | .missing, false => throw .bounds
  | least, isComma =>
    let first := match least with
      | .given n => n
      | _ => 0
    let last ← if isComma then boundNumber .missing measure else pure (.given first)
    match last with
    | .invalid => invalid
    | last =>
      let most : Option Nat := match last with
        | .given n => some n
        | _ => none
      match (← get).token with
      | .closeBound =>
        if most.any (· < first) then throw .bounds
        else if most.getD first > mostRepeats then throw .size
        else return some (first, most)
      | _ => throw .bounds

/-! ### Expressions -/

/-- Warns of a repetition without anything to repeat. -/
def warnLonely (sign : String) : Scan Unit :=
  modify fun scanner =>
    { scanner with warnings := (sign ++ " at start of expression") :: scanner.warnings }

/-- Reads the repetitions that follow a piece. -/
def repetitions (body : Option Regex) : (measure : Nat) → Scan (Option Regex)
  | 0 => return body
  | measure + 1 => do
    let again (least : Nat) (most : Option Nat) : Scan (Option Regex) := do
      fetch
      let body := if most = some 0 then none else body.map fun body => .repeated body least most
      if (← get).style.refusesBounds then
        match (← get).token with
        | .star | .openBound => throw .repetition
        | _ => pure ()
      repetitions body measure
    match (← get).token with
    | .star => again 0 none
    | .plus => again 1 none
    | .question => again 0 (some 1)
    | .openBound =>
      match ← bounds with
      | some (least, most) => again least most
      | none => return body
    | _ => return body

mutual

/-- Reads alternatives. -/
def alternatives (depth : Nat) : (measure : Nat) → Scan (Option Regex)
  | 0 => throw .size
  | measure + 1 => do
    let closed := (← get).closed
    let first ← branch depth none measure
    moreAlternatives depth closed first measure
  termination_by structural measure => measure

/-- Reads what is left of alternatives; `closed` are the groups complete before all of them. -/
def moreAlternatives (depth : Nat) (closed : List Nat) (done : Option Regex) :
    (measure : Nat) → Scan (Option Regex)
  | 0 => throw .size
  | measure + 1 => do
    match (← get).token with
    | .alternative =>
      fetch true
      let isOver : Bool := match (← get).token with
        | .alternative | .finish => true
        | .closing => depth > 0
        | _ => false
      let next ← if isOver then pure none
        else
          let before := (← get).closed
          modify fun scanner => { scanner with closed }
          let next ← branch depth none measure
          modify fun scanner => { scanner with closed := before ++ scanner.closed }
          pure next
      moreAlternatives depth closed (some (.either (done.getD .empty) (next.getD .empty))) measure
    | _ => return done
  termination_by structural measure => measure

/-- Reads pieces one after another. -/
def branch (depth : Nat) (done : Option Regex) : (measure : Nat) → Scan (Option Regex)
  | 0 => throw .size
  | measure + 1 => do
    let piece ← piece depth measure
    let done : Option Regex := match done, piece with
      | some first, some second => some (.both first second)
      | none, other => other
      | other, none => other
    match (← get).token with
    | .alternative | .finish => return done
    | .closing => if depth > 0 then return done else branch depth done measure
    | _ => branch depth done measure
  termination_by structural measure => measure

/-- Reads one piece with its repetitions. -/
def piece (depth : Nat) : (measure : Nat) → Scan (Option Regex)
  | 0 => throw .size
  | measure + 1 => do
    let style := (← get).style
    let single (regex : Regex) : Scan (Option Regex) := do
      fetch
      repetitions (some regex) measure
    let lonely (c : Char) (sign : String) : Scan (Option Regex) :=
      match style.lonely with
      | .literal => single (.char c.toNat)
      | .refused => throw .repetition
      | .skipped => do
        warnLonely sign
        fetch
        piece depth measure
    match (← get).token with
    | .char c => single (.char c)
    | .piece regex => single regex
    | .bracket => single (← set)
    | .anchor regex =>
      fetch true
      return some regex
    | .again number =>
      if (← get).closed.contains number then single (.again number) else throw .backReference
    | .opening =>
      modify fun scanner => { scanner with groups := scanner.groups + 1 }
      let number := (← get).groups
      fetch true
      let body ← match (← get).token with
        | .closing => pure none
        | _ =>
          let body ← alternatives (depth + 1) measure
          match (← get).token with
          | .closing => pure body
          | _ => throw .parenthesis
      modify fun scanner => { scanner with closed := number :: scanner.closed }
      single (.group number (body.getD .empty))
    | .closing => if style.allowsStray then single (.char 0x29) else throw .closing
    | .closeBound => single (.char 0x7d)
    | .openBound =>
      if style.refusesBounds then throw .repetition
      else if style.lonely = .skipped then
        match ← bounds with
        | some _ =>
          warnLonely "\x7b...\x7d"
          fetch
          piece depth measure
        | none => piece depth measure
      else lonely '\x7b' ""
    | .star => lonely '*' "*"
    | .plus => lonely '+' "+"
    | .question => lonely '?' "?"
    | .backslash => throw .trailingBackslash
    | .alternative | .finish => return none
  termination_by structural measure => measure

end

/-- An expression as it was read. -/
structure Reading where
  regex : Regex
  groups : Nat
  warnings : List String
  /-- There is a set that looks like the name of a class. -/
  looksNamed : Bool

/-- What is told of a set that looks like the name of a class. -/
def namedSetComplaint : String := "character class syntax is [[:space:]], not [:space:]"

/-- Reads an expression. -/
def parse (style : Style) (text : List Nat) : Except Fault Reading := do
  let read : Scan (Option Regex) := do
    fetch true
    alternatives 0 (8 * text.length + 16)
  let (regex, scanner) ← read.run { style, rest := text }
  return ⟨regex.getD .empty, scanner.groups, scanner.warnings.reverse, scanner.looksNamed⟩

end Regex

end ArtifactLens.Shell
