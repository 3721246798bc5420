import ArtifactLens.Text.Digit

/-!
# JSON

The values of a JSON text and a reader for them. Beyond the standard the reader takes `NaN`,
`Infinity` and `-Infinity` as numbers, and of repeated keys the last one counts. A fault tells
what is wrong and where; positions count characters. An integer of more than
`Json.integerLimit` digits is refused on grounds of its own.

Every step of the reader consumes a character, so the length of the text bounds its recursion.
-/

namespace ArtifactLens

/-- A JSON value. Numbers are not interpreted. -/
inductive Json where
  | null
  | bool (value : Bool)
  | number
  | string (text : String)
  | array (items : List Json)
  | object (fields : List (String × Json))

namespace Json

/-- The most digits an integer may have. -/
def integerLimit : Nat := 4300

/-- What is wrong at a place of a text. -/
inductive Problem where
  | value
  | property
  | colon
  | comma
  | unterminated
  | control
  | escape
  | unicodeEscape
  | extra
  | byteOrderMark
  deriving DecidableEq, Repr

/-- The wording of a problem. -/
def Problem.message : Problem → String
  | .value => "Expecting value"
  | .property => "Expecting property name enclosed in double quotes"
  | .colon => "Expecting ':' delimiter"
  | .comma => "Expecting ',' delimiter"
  | .unterminated => "Unterminated string starting at"
  | .control => "Invalid control character at"
  | .escape => "Invalid \\escape"
  | .unicodeEscape => "Invalid \\uXXXX escape"
  | .extra => "Extra data"
  | .byteOrderMark => "Unexpected UTF-8 BOM (decode using utf-8-sig)"

/-- Why a text is refused. -/
inductive Fault where
  /-- The text is no JSON, from the character with the given index on. -/
  | malformed (problem : Problem) (line column position : Nat)
  /-- An integer has too many digits. -/
  | longInteger (digits : Nat)
  deriving DecidableEq, Repr

/-- Why reading stops: the problem and the number of characters left where it stands. -/
inductive Stop where
  | problem (problem : Problem) (left : Nat)
  | longInteger (digits : Nat)

/-- A piece that was read, and the rest of the text. -/
abbrev Read (α : Type) := Except Stop (α × List Char)

/-- The character separates tokens. -/
def isSpace (c : Char) : Bool := c == ' ' || c == '\t' || c == '\n' || c == '\r'

/-- The text without the white space at its start. -/
def skip (text : List Char) : List Char := text.dropWhile isSpace

/-- Stops at the start of what is left. -/
def stop {α : Type} (problem : Problem) (text : List Char) : Read α :=
  .error (.problem problem text.length)

/-! ### Strings -/

/-- The value of exactly four hexadecimal digits at the start of a text. -/
def fourHex? (text : List Char) : Option Nat :=
  let digits := text.take 4
  if digits.length = 4 ∧ digits.all (fun c => (Digit.hexValue? c).isSome) then
    some (Digit.hexNumeral digits)
  else none

/-- The character that a backslash and a letter stand for. -/
def simpleEscape? : Char → Option Char
  | '"' => some '"'
  | '\\' => some '\\'
  | '/' => some '/'
  | 'b' => some (Char.ofNat 8)
  | 'f' => some (Char.ofNat 12)
  | 'n' => some '\n'
  | 'r' => some '\r'
  | 't' => some '\t'
  | _ => none

/-- The code of a UTF-16 unit is the first half of a pair. -/
def isHighHalf (code : Nat) : Bool := 0xd800 ≤ code && code ≤ 0xdbff

/-- The code of a UTF-16 unit is the second half of a pair. -/
def isLowHalf (code : Nat) : Bool := 0xdc00 ≤ code && code ≤ 0xdfff

/-- The character with a code, or U+FFFD for half of a pair. -/
def charOf (code : Nat) : Char :=
  if isHighHalf code || isLowHalf code then Char.ofNat 0xfffd else Char.ofNat code

/-- Reads an escape by number, given the text from its `u` on; a pair of halves is one character.
At least one more character must follow an escape. The result tells how many characters it takes
beyond the `u`. -/
def unicodeEscape (text : List Char) : Except Stop (Char × Nat) :=
  let body := text.drop 1
  match fourHex? body with
  | none => .error (.problem .unicodeEscape text.length)
  | some code =>
    let after := body.drop 4
    if after.isEmpty then .error (.problem .unicodeEscape text.length)
    else if isHighHalf code && after.take 2 == ['\\', 'u'] && 6 < after.length then
      match fourHex? (after.drop 2) with
      | none => .error (.problem .unicodeEscape (after.length - 1))
      | some low =>
        if isLowHalf low then
          .ok (Char.ofNat (0x10000 + (code - 0xd800) * 0x400 + (low - 0xdc00)), 10)
        else .ok (charOf code, 4)
    else .ok (charOf code, 4)

/-- Reads the rest of a string, whose opening quote stood where `opening` characters were left.
The accumulator holds what has been read, in reverse. -/
def stringFrom (opening : Nat) (done : List Char) : List Char → Read String
  | [] => .error (.problem .unterminated opening)
  | '"' :: rest => .ok (String.ofList done.reverse, rest)
  | '\\' :: [] => .error (.problem .unterminated opening)
  | '\\' :: c :: rest =>
    if c = 'u' then
      match unicodeEscape (c :: rest) with
      | .error reason => .error reason
      | .ok (decoded, size) => stringFrom opening (decoded :: done) (rest.drop size)
    else
      match simpleEscape? c with
      | some decoded => stringFrom opening (decoded :: done) rest
      | none => stop .escape ('\\' :: c :: rest)
  | c :: rest =>
    if c.toNat < 0x20 then stop .control (c :: rest) else stringFrom opening (c :: done) rest
  termination_by text => text.length
  decreasing_by all_goals (simp; try omega)

/-! ### Numbers and names -/

/-- The rest of a text that starts with a given word. -/
def word? (word : String) (text : List Char) : Option (List Char) :=
  if word.toList.isPrefixOf text then some (text.drop word.length) else none

/-- The rest of a text after a fraction at its start, if there is one. -/
def fraction? : List Char → Option (List Char)
  | '.' :: rest =>
    let after := rest.dropWhile Char.isDigit
    if after.length < rest.length then some after else none
  | _ => none

/-- The rest of a text after an exponent at its start, if there is one. -/
def exponent? : List Char → Option (List Char)
  | c :: rest =>
    if c = 'e' || c = 'E' then
      let digits := match rest with
        | '+' :: more => more
        | '-' :: more => more
        | more => more
      let after := digits.dropWhile Char.isDigit
      if after.length < digits.length then some after else none
    else none
  | [] => none

/-- Reads the digits of a number whose sign has been read. -/
def digits? (text : List Char) : Option (Nat × List Char) :=
  match text with
  | '0' :: rest => some (1, rest)
  | c :: _ =>
    if c.isDigit then
      let rest := text.dropWhile Char.isDigit
      some (text.length - rest.length, rest)
    else none
  | [] => none

/-- Reads a number: the longest one at the start of the text. -/
def numberAt (text : List Char) : Read Json :=
  let unsigned := match text with
    | '-' :: rest => rest
    | _ => text
  match digits? unsigned with
  | none => stop .value text
  | some (count, rest) =>
    let afterFraction := (fraction? rest).getD rest
    let after := (exponent? afterFraction).getD afterFraction
    if after.length = rest.length ∧ integerLimit < count then .error (.longInteger count)
    else .ok (.number, after)

/-- Reads a number or one of the names. -/
def scalarAt (text : List Char) : Read Json :=
  match word? "null" text, word? "true" text, word? "false" text with
  | some rest, _, _ => .ok (.null, rest)
  | _, some rest, _ => .ok (.bool true, rest)
  | _, _, some rest => .ok (.bool false, rest)
  | none, none, none =>
    match word? "NaN" text, word? "Infinity" text, word? "-Infinity" text with
    | some rest, _, _ => .ok (.number, rest)
    | _, some rest, _ => .ok (.number, rest)
    | _, _, some rest => .ok (.number, rest)
    | none, none, none => numberAt text

/-! ### Values -/

mutual

/-- Reads a value at the start of a text. -/
@[grind =]
def valueAt : (measure : Nat) → List Char → Read Json
  | 0, text => stop .value text
  | measure + 1, text =>
    match text with
    | [] => stop .value []
    | '"' :: rest =>
      match stringFrom text.length [] rest with
      | .ok (content, rest) => .ok (.string content, rest)
      | .error reason => .error reason
    | '[' :: rest =>
      match skip rest with
      | ']' :: rest => .ok (.array [], rest)
      | rest => itemsAt measure [] rest
    | '\x7b' :: rest =>
      match skip rest with
      | '\x7d' :: rest => .ok (.object [], rest)
      | rest => fieldsAt measure [] rest
    | _ => scalarAt text

/-- Reads the items of an array, up to and including its bracket; `done` holds the items read, in
reverse. -/
@[grind =]
def itemsAt : (measure : Nat) → (done : List Json) → List Char → Read Json
  | 0, _, text => stop .value text
  | measure + 1, done, text =>
    match valueAt measure text with
    | .error reason => .error reason
    | .ok (item, rest) =>
      match skip rest with
      | ']' :: rest => .ok (.array (item :: done).reverse, rest)
      | ',' :: rest => itemsAt measure (item :: done) (skip rest)
      | rest => stop .comma rest

/-- Reads the fields of an object, up to and including its brace; `done` holds the fields read, in
reverse. -/
@[grind =]
def fieldsAt : (measure : Nat) → (done : List (String × Json)) → List Char → Read Json
  | 0, _, text => stop .value text
  | measure + 1, done, text =>
    match text with
    | '"' :: rest =>
      match stringFrom text.length [] rest with
      | .error reason => .error reason
      | .ok (key, rest) =>
        match skip rest with
        | ':' :: rest =>
          match valueAt measure (skip rest) with
          | .error reason => .error reason
          | .ok (value, rest) =>
            match skip rest with
            | '\x7d' :: rest => .ok (.object ((key, value) :: done).reverse, rest)
            | ',' :: rest => fieldsAt measure ((key, value) :: done) (skip rest)
            | rest => stop .comma rest
        | rest => stop .colon rest
    | _ => stop .property text

end

/-- The place where a number of characters is left of a text, as a fault. -/
def faultAt (text : List Char) : Stop → Fault
  | .longInteger digits => .longInteger digits
  | .problem problem left =>
    let position := text.length - left
    let before := text.take position
    let line := before.count '\n' + 1
    let column := (before.reverse.takeWhile (· != '\n')).length + 1
    .malformed problem line column position

/-- The value that a text spells. -/
def parse (text : List Char) : Except Fault Json :=
  if text.head? = some (Char.ofNat 0xfeff) then .error (.malformed .byteOrderMark 1 1 0)
  else
    match valueAt (2 * text.length + 2) (skip text) with
    | .error reason => .error (faultAt text reason)
    | .ok (value, rest) =>
      match skip rest with
      | [] => .ok value
      | rest => .error (faultAt text (.problem .extra rest.length))

/-- The value of a key of an object, the last one if it is repeated. -/
def field? (fields : List (String × Json)) (key : String) : Option Json :=
  (fields.reverse.find? fun entry => entry.1 == key).map (·.2)

end Json

end ArtifactLens
