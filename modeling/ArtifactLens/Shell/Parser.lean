import ArtifactLens.Shell.Grammar

/-!
# Parsing shell commands

A reader holds the text that is left, the number of its line and the last token. `Reader.next`
reads the commands of one line, together with the here-documents that follow it; a script is read
line by line, so that a fault in a later line leaves the earlier ones to run.

The parser works down the grammar and looks one token ahead: a token that was read may be pushed
back. Which words count as reserved depends on the place, and so do the newlines that are skipped.
Every function takes a measure that bounds its recursion; the length of the text determines a
sufficient one.
-/

namespace ArtifactLens.Shell

/-- The kinds of tokens. -/
inductive Token where
  | endOfFile
  | newline
  | redirection
  | word
  | semicolon
  | ampersand
  | andAnd
  | orOr
  | bar
  | openParen
  | closeParen
  | doubleSemicolon
  | bang
  | case
  | do
  | done
  | elif
  | else
  | esac
  | fi
  | for
  | if
  | in
  | then
  | until
  | while
  | openBrace
  | closeBrace
  deriving DecidableEq, Repr

namespace Token

/-- The reserved words. -/
def reserved : List (String × Token) :=
  [("!", .bang), ("case", .case), ("do", .do), ("done", .done), ("elif", .elif), ("else", .else),
    ("esac", .esac), ("fi", .fi), ("for", .for), ("if", .if), ("in", .in), ("then", .then),
    ("until", .until), ("while", .while), ("\x7b", .openBrace), ("\x7d", .closeBrace)]

/-- How a token is named in a complaint. -/
def name : Token → String
  | .endOfFile => "end of file"
  | .newline => "newline"
  | .redirection => "redirection"
  | .word => "word"
  | .semicolon => "\";\""
  | .ampersand => "\"&\""
  | .andAnd => "\"&&\""
  | .orOr => "\"||\""
  | .bar => "\"|\""
  | .openParen => "\"(\""
  | .closeParen => "\")\""
  | .doubleSemicolon => "\";;\""
  | token =>
    match reserved.find? fun entry => entry.2 == token with
    | some entry => "\"" ++ entry.1 ++ "\""
    | none => ""

/-- The token ends a list of commands. -/
def endsList : Token → Bool
  | .endOfFile | .closeParen | .doubleSemicolon | .do | .done | .elif | .else | .esac | .fi
  | .then | .closeBrace => true
  | _ => false

end Token

/-- What is recognised when a token is read. -/
structure Lookout where
  /-- Newlines are skipped. -/
  newlines : Bool := false
  /-- Reserved words are recognised. -/
  reserved : Bool := false
  /-- Aliases are replaced. -/
  aliases : Bool := false

/-- Newlines, reserved words and aliases are all looked out for. -/
def Lookout.all : Lookout := ⟨true, true, true⟩

/-- A here-document whose body is still to be read. -/
structure PendingDocument where
  number : Nat
  mark : String
  isQuoted : Bool
  stripsTabs : Bool

/-- The replacement of an alias that is being read. -/
structure Replacement where
  name : String
  /-- The length of the text that follows the replacement. -/
  remaining : Nat
  /-- The replacement ends in a blank, so that the token after it may be an alias too. -/
  invites : Bool

/-- The mark at which the here-document that is being read ends. -/
structure DocumentMark where
  text : List Char
  stripsTabs : Bool

/-- The state of reading a script. -/
structure Reader where
  rest : List Char
  line : Nat
  token : Token
  /-- The last token is to be read again. -/
  isPushedBack : Bool
  /-- The word, if the last token is one. -/
  word : Word
  /-- Some of the word was quoted. -/
  isQuoted : Bool
  /-- The redirection, if the last token is one, without its target. -/
  descriptor : Nat
  redirect : Option Redirect
  stripsTabs : Bool
  pending : List PendingDocument
  /-- The bodies of here-documents by number. -/
  documents : List (Nat × Word)
  nextDocument : Nat
  aliases : Table String String
  /-- The replacements of aliases that are being read. -/
  replaced : List Replacement
  /-- The mark of the here-document that is being read. -/
  mark : Option DocumentMark := none
  /-- The text after the mark, once that was found. -/
  beyond : Option (List Char) := none

namespace Reader

/-- A reader at the start of a text. -/
def ofText (text : String) (nextDocument : Nat) (aliases : Table String String) : Reader :=
  { rest := text.toList, line := 1, token := .newline, isPushedBack := false, word := []
    isQuoted := false, descriptor := 0, redirect := none, stripsTabs := false, pending := []
    documents := [], nextDocument, aliases, replaced := [] }

end Reader

/-- A fault in a script: its line and what is wrong. -/
structure ScriptFault where
  line : Nat
  complaint : String

/-- Reading pieces of a script. -/
abbrev Parse (α : Type) := StateT Reader (Except ScriptFault) α

namespace Parse

/-- The built-in commands whose failure ends the shell. -/
def specialNames : List String :=
  [".", ":", "break", "continue", "eval", "exec", "exit", "export", "local", "readonly", "return",
    "set", "shift", "times", "trap", "unset"]

/-- Gives up with a complaint about the current line. -/
def complain {α : Type} (complaint : String) : Parse α := do
  throw ⟨(← get).line, "Syntax error: " ++ complaint⟩

/-- Complains about the last token, possibly telling the one that was expected. -/
def unexpected {α : Type} (expected : Option Token := none) : Parse α := do
  let text := (← get).token.name ++ " unexpected" ++ match expected with
    | some token => " (expecting " ++ token.name ++ ")"
    | none => ""
  complain (String.ofList (text.toList.take 63))

/-- Removes pairs of a backslash and a newline at the start of the text. -/
def joinLines (line : Nat) : List Char → Nat × List Char
  | '\\' :: '\n' :: rest => joinLines (line + 1) rest
  | rest => (line, rest)

/-- The next character, lines being joined where a backslash ends one. -/
def peek : Parse (Option Char) := do
  let reader ← get
  let (line, rest) := joinLines reader.line reader.rest
  set { reader with line, rest }
  return rest.head?

/-- Takes the next character, whatever it is. -/
def take : Parse (Option Char) := do
  let reader ← get
  match reader.rest with
  | [] => return none
  | c :: rest =>
    set { reader with rest, line := if c = '\n' then reader.line + 1 else reader.line }
    return some c

/-- Takes the next character if it is a given one. -/
def accept (c : Char) : Parse Bool := do
  if (← peek) = some c then
    let _ ← take
    return true
  else return false

/-- Reads the last token again. -/
def pushBack : Parse Unit := modify fun reader => { reader with isPushedBack := true }

/-- Sets the last token. -/
def setToken (token : Token) : Parse Token := do
  modify fun reader => { reader with token }
  return token

/-! ### Words -/

/-- Where a part of a word stands, which decides what is special and what ends it. -/
inductive Place where
  /-- In a word. -/
  | base
  /-- In the word of a parameter expansion outside quotes. -/
  | brace
  /-- Between double quotes. -/
  | double
  /-- In the word of a parameter expansion within quotes. -/
  | doubleBrace
  /-- In a here-document. -/
  | document
  /-- In an arithmetic expression, with the number of its open parentheses. -/
  | arithmetic (depth : Nat)
  deriving DecidableEq

/-- Parts at the place are quoted. -/
def Place.isQuoted : Place → Bool
  | .base | .brace => false
  | _ => true

/-- Single quotes quote at the place. -/
def Place.hasSingleQuotes : Place → Bool
  | .base | .brace => true
  | _ => false

/-- Parts of a word that were read, in reverse, and the run of characters being read, in
reverse. -/
structure Pieces where
  parts : List Part := []
  run : List Char := []
  runIsQuoted : Bool := false

namespace Pieces

/-- The parts with the current run as the last of them. -/
def flush (pieces : Pieces) : Pieces :=
  if pieces.run.isEmpty then pieces
  else
    let text := String.ofList pieces.run.reverse
    { parts := (if pieces.runIsQuoted then .quoted text else .plain text) :: pieces.parts }

/-- Adds a character. -/
def add (pieces : Pieces) (c : Char) (quoted : Bool) : Pieces :=
  if pieces.run.isEmpty || pieces.runIsQuoted == quoted then
    { pieces with run := c :: pieces.run, runIsQuoted := quoted }
  else { pieces.flush with run := [c], runIsQuoted := quoted }

/-- Adds a part. -/
def push (pieces : Pieces) (part : Part) : Pieces :=
  let pieces := pieces.flush
  { pieces with parts := part :: pieces.parts }

/-- All parts in order. -/
def toWord (pieces : Pieces) : Word := pieces.flush.parts.reverse

end Pieces

/-- The characters that end a word. -/
def isMeta (c : Char) : Bool :=
  c == ' ' || c == '\t' || c == '\n' || c == '&' || c == '|' || c == ';' || c == '<' || c == '>' ||
    c == '(' || c == ')'

/-- The character names a special parameter. -/
def isSpecial (c : Char) : Bool :=
  c == '!' || c == '#' || c == '$' || c == '*' || c == '-' || c == '?' || c == '@' || c.isDigit

/-- Reads up to a single quote. -/
def singleQuoted (done : List Char) : (measure : Nat) → Parse String
  | 0 => complain "Unterminated quoted string"
  | measure + 1 => do
    match ← take with
    | none => complain "Unterminated quoted string"
    | some '\'' => return String.ofList done.reverse
    | some c => singleQuoted (c :: done) measure

/-- Reads characters of a name. -/
def nameFrom (accepts : Char → Bool) (done : List Char) : (measure : Nat) → Parse String
  | 0 => return String.ofList done.reverse
  | measure + 1 => do
    match ← peek with
    | some c =>
      if accepts c then
        let _ ← take
        nameFrom accepts (c :: done) measure
      else return String.ofList done.reverse
    | none => return String.ofList done.reverse

/-- Reads the text of a command between backquotes, without the backslashes that escape within
it. -/
def backquoted (inDouble : Bool) (done : List Char) : (measure : Nat) → Parse String
  | 0 => complain "EOF in backquote substitution"
  | measure + 1 => do
    match ← peek with
    | none => complain "EOF in backquote substitution"
    | some '\x60' =>
      let _ ← take
      return String.ofList done.reverse
    | some '\\' =>
      let _ ← take
      match ← take with
      | none => complain "EOF in backquote substitution"
      | some c =>
        if c = '\\' ∨ c = '\x60' ∨ c = '$' ∨ (inDouble ∧ c = '"') then
          backquoted inDouble (c :: done) measure
        else backquoted inDouble (c :: '\\' :: done) measure
    | some c =>
      let _ ← take
      backquoted inDouble (c :: done) measure

/-- The line of a here-document up to its end, which is dropped, and the text after it. -/
def splitLine (text : List Char) : List Char × Bool × List Char :=
  let line := text.takeWhile (· != '\n')
  match text.drop line.length with
  | [] => (line, false, [])
  | _ :: rest => (line, true, rest)

/-- The lines of a here-document up to its mark: the text, the number of lines read, and the text
after the mark. -/
def documentLines (mark : List Char) (stripsTabs : Bool) (lines : Nat) (done : List Char) :
    (measure : Nat) → List Char → List Char × Nat × List Char
  | 0, text => (done.reverse, lines, text)
  | measure + 1, text =>
    if text.isEmpty then (done.reverse, lines, [])
    else
      let (line, ended, rest) := splitLine text
      let line := if stripsTabs then line.dropWhile (· == '\t') else line
      let count := if ended then lines + 1 else lines
      if line = mark then (done.reverse, count, rest)
      else
        let done := line.reverse ++ done
        documentLines mark stripsTabs count (if ended then '\n' :: done else done) measure rest

/-- The text of a word as it stands, for a mark or a name. -/
def wordText (word : Word) : String :=
  word.foldl (fun text part =>
    match part with
    | .plain piece => text ++ piece
    | .quoted piece => text ++ piece
    | _ => text) ""

/-- The text of a word that is one run outside quotes. -/
def plainText? : Word → Option String
  | [.plain text] => some text
  | _ => none

/-- At the start of a line of a here-document: drops tabs if the document wants it, and ends the text
if the mark stands there. -/
def lineStart : Parse Unit := do
  let reader ← get
  match reader.mark with
  | none => return
  | some mark =>
    let rest := if mark.stripsTabs then reader.rest.dropWhile (· == '\t') else reader.rest
    let after := rest.drop mark.text.length
    let isEnd : Bool := mark.text.isPrefixOf rest && !rest.isEmpty &&
      (after.isEmpty || after.head? == some '\n')
    set <| if isEnd then
        { reader with
          rest := [], beyond := some (after.drop 1), mark := none, line := reader.line + 1 }
      else { reader with rest }

/-- Splits a word that is an assignment. -/
def assignment? : Word → Option (String × Word)
  | .plain text :: rest =>
    match splitAssignment? text with
    | some (name, "") => some (name, rest)
    | some (name, value) => some (name, .plain value :: rest)
    | none => none
  | _ => none

/-- Reads the digit, name or sign after a dollar, which has been seen to be there. -/
def shortName (measure : Nat) : Parse String := do
  match ← take with
  | none => return ""
  | some c =>
    if isNameStart c then nameFrom isNameChar [c] measure else return String.singleton c

/-- Reads an operator of one or two characters, the first of which has been read. -/
def operator (first : Char) : Parse Token := do
  match first with
  | '&' => if ← accept '&' then setToken .andAnd else setToken .ampersand
  | '|' => if ← accept '|' then setToken .orOr else setToken .bar
  | ';' => if ← accept ';' then setToken .doubleSemicolon else setToken .semicolon
  | '(' => setToken .openParen
  | _ => setToken .closeParen

/-- Reads the rest of a redirection operator, the first character of which has been read. -/
def redirection (first : Char) (descriptor : Option Nat) : Parse Token := do
  let settle (standard : Nat) (kind : Option Redirect) (stripsTabs : Bool) : Parse Token := do
    modify fun reader => { reader with
      descriptor := descriptor.getD standard, redirect := kind, stripsTabs }
    setToken .redirection
  if first = '>' then
    if ← accept '>' then settle 1 (some .append) false
    else if ← accept '|' then settle 1 (some .clobber) false
    else if ← accept '&' then settle 1 (some .share) false
    else settle 1 (some .write) false
  else if ← accept '<' then
    let stripsTabs ← accept '-'
    settle 0 none stripsTabs
  else if ← accept '&' then settle 0 (some .share) false
  else if ← accept '>' then settle 0 (some .readWrite) false
  else settle 0 (some .read) false

/-- Reads blanks and comments up to the start of a token. -/
def skipBlanks : (measure : Nat) → Parse Unit
  | 0 => return
  | measure + 1 => do
    match ← peek with
    | some ' ' | some '\t' =>
      let _ ← take
      skipBlanks measure
    | some '#' =>
      modify fun reader => { reader with rest := reader.rest.dropWhile (· != '\n') }
      skipBlanks measure
    | _ => return

/-- The error for a word that the text ends in; in a here-document no quotes are open. -/
def unterminated {α : Type} (place : Place) : Parse α := do
  let reader ← get
  let isDocument := reader.mark.isSome || reader.beyond.isSome
  match place with
  | .base | .brace => complain "Missing '\x7d'"
  | .double | .doubleBrace | .document =>
    complain (if isDocument then "Missing '\x7d'" else "Unterminated quoted string")
  | .arithmetic _ => complain "Missing '))'"

mutual

/-- Reads the parts of a word up to its end. -/
def parts (place : Place) (pieces : Pieces) : (measure : Nat) → Parse Pieces
  | 0 => unterminated place
  | measure + 1 => do
    let quoted := place.isQuoted
    match ← peek with
    | none =>
      match place with
      | .base | .document => return pieces
      | _ => unterminated place
    | some c =>
      if place = .base ∧ isMeta c then return pieces
      else
        let _ ← take
        match c with
        | '\'' =>
          if place.hasSingleQuotes then
            let text ← singleQuoted [] measure
            parts place (pieces.push (.quoted text)) measure
          else parts place (pieces.add c quoted) measure
        | '"' =>
          match place with
          | .double => return pieces
          | .document | .arithmetic _ => parts place (pieces.add c quoted) measure
          | _ =>
            let inner ← parts .double {} measure
            let word := inner.toWord
            let pieces := if word.isEmpty then pieces.push (.quoted "")
              else word.foldl Pieces.push pieces
            parts place pieces measure
        | '\\' =>
          match ← take with
          | none => parts place (pieces.add '\\' true) measure
          | some d =>
            let escapes := d = '\\' ∨ d = '\x60' ∨ d = '$' ∨
              (d = '"' ∧ place ≠ .document) ∨ (d = '\x7d' ∧ place = .doubleBrace)
            if quoted ∧ ¬ escapes then
              parts place ((pieces.add '\\' true).add d true) measure
            else parts place (pieces.add d true) measure
        | '\x60' =>
          let text ← backquoted (quoted && place != .document) [] measure
          let body ← nested text measure
          parts place (pieces.push (.command body quoted)) measure
        | '$' =>
          let pieces ← dollar place pieces measure
          parts place pieces measure
        | '\x7d' =>
          match place with
          | .brace | .doubleBrace => return pieces
          | _ => parts place (pieces.add c quoted) measure
        | '(' =>
          match place with
          | .arithmetic depth => parts (.arithmetic (depth + 1)) (pieces.add c quoted) measure
          | _ => parts place (pieces.add c quoted) measure
        | ')' =>
          match place with
          | .arithmetic (depth + 1) => parts (.arithmetic depth) (pieces.add c quoted) measure
          | .arithmetic 0 =>
            if ← accept ')' then return pieces else parts place (pieces.add c quoted) measure
          | _ => parts place (pieces.add c quoted) measure
        | '\n' =>
          lineStart
          parts place (pieces.add c quoted) measure
        | _ => parts place (pieces.add c quoted) measure

/-- Reads what follows a dollar. -/
def dollar (place : Place) (pieces : Pieces) : (measure : Nat) → Parse Pieces
  | 0 => unterminated place
  | measure + 1 => do
    let quoted := place.isQuoted
    match ← peek with
    | some '(' =>
      let _ ← take
      if ← accept '(' then
        let expression ← parts (.arithmetic 0) {} measure
        return pieces.push (.arithmetic expression.toWord quoted)
      else
        let { pending, mark, .. } ← get
        modify fun reader => { reader with pending := [], mark := none }
        let body ← list 2 .empty measure
        if (← readToken {} measure) ≠ .closeParen then unexpected (some .closeParen)
        else
          readDocuments measure
          modify fun reader => { reader with pending, mark }
          return pieces.push (.command body quoted)
    | some '\x7b' =>
      let _ ← take
      let (name, form) ← braced place measure
      return pieces.push (.parameter name form quoted)
    | some c =>
      if isNameStart c ∨ isSpecial c then
        return pieces.push (.parameter (← shortName measure) .value quoted)
      else return pieces.add '$' quoted
    | none => return pieces.add '$' quoted

/-- Reads a parameter expansion from after its brace up to its end. -/
def braced (place : Place) : (measure : Nat) → Parse (String × Form)
  | 0 => unterminated place
  | measure + 1 => do
    let inner : Place := if place.isQuoted then .doubleBrace else .brace
    let bad : Parse (String × Form) := do
      let _ ← parts inner {} measure
      return ("", .bad)
    match ← peek with
    | none => bad
    | some c =>
      if isNameStart c then
        let name ← nameFrom isNameChar [] measure
        modified place name measure
      else if c.isDigit then
        let name ← nameFrom Char.isDigit [] measure
        modified place name measure
      else if c = '#' then
        let _ ← take
        match ← peek with
        | none => modified place "#" measure
        | some d =>
          if isNameChar d then
            let name ← nameFrom (if d.isDigit then Char.isDigit else isNameChar) [] measure
            if ← accept '\x7d' then return (name, .length) else bad
          else
            let reader ← get
            let _ ← take
            let follows ← peek
            if d ≠ '\x7d' ∧ follows = some '\x7d' then
              if isSpecial d then
                let _ ← take
                return (String.singleton d, .length)
              else bad
            else
              set reader
              modified place "#" measure
      else if isSpecial c then
        let _ ← take
        modified place (String.singleton c) measure
      else bad

/-- Reads the operator of a parameter expansion and its word. -/
def modified (place : Place) (name : String) : (measure : Nat) → Parse (String × Form)
  | 0 => unterminated place
  | measure + 1 => do
    let inner : Place := if place.isQuoted then .doubleBrace else .brace
    let fallback (kind : Fallback) (orEmpty : Bool) : Parse (String × Form) := do
      let _ ← take
      let word ← parts inner {} measure
      return (name, .fallback kind orEmpty word.toWord)
    let trim (c : Char) (atEnd : Bool) : Parse (String × Form) := do
      let _ ← take
      let longest ← accept c
      let pattern ← parts .brace {} measure
      return (name, .trim atEnd longest pattern.toWord)
    let orEmpty ← accept ':'
    match ← peek with
    | some '\x7d' =>
      let _ ← take
      if orEmpty then
        let word ← parts inner {} measure
        return (name, .fallback .use orEmpty word.toWord)
      else return (name, .value)
    | some '-' => fallback .use orEmpty
    | some '=' => fallback .assign orEmpty
    | some '?' => fallback .complain orEmpty
    | some '+' => fallback .alternative orEmpty
    | some '%' => if orEmpty then trim '%' true else trim '%' true
    | some '#' => trim '#' false
    | _ =>
      -- The character that is no operator is passed over, even if it is a quote or a newline.
      modify fun reader => { reader with rest := reader.rest.drop 1 }
      let _ ← parts inner {} measure
      return (name, .bad)

/-- Parses a text of its own as the commands of a substitution. -/
def nested (text : String) : (measure : Nat) → Parse Command
  | 0 => complain "EOF in backquote substitution"
  | measure + 1 => do
    let outer ← get
    set { outer with
      rest := text.toList, line := 1, isPushedBack := false, pending := [], replaced := []
      mark := none }
    let body ← list 2 .empty measure
    readDocuments measure
    let inner ← get
    set { outer with documents := inner.documents, nextDocument := inner.nextDocument }
    return body

/-- Reads the bodies of the here-documents that were asked for. -/
def readDocuments : (measure : Nat) → Parse Unit
  | 0 => return
  | measure + 1 => do
    let reader ← get
    match reader.pending with
    | [] => return
    | document :: rest =>
      let word ←
        if document.isQuoted then
          let (text, lines, after) := documentLines document.mark.toList document.stripsTabs 0 []
            (reader.rest.length + 1) reader.rest
          set { reader with pending := rest, rest := after, line := reader.line + lines }
          pure [Part.quoted (String.ofList text)]
        else
          let mark : DocumentMark := ⟨document.mark.toList, document.stripsTabs⟩
          set { reader with pending := [], mark := some mark, beyond := none }
          lineStart
          let pieces ← parts .document {} measure
          modify fun inner => { inner with
            pending := rest, rest := inner.beyond.getD inner.rest
            mark := reader.mark, beyond := reader.beyond }
          pure pieces.toWord
      modify fun reader => { reader with
        documents := (document.number, word) :: reader.documents }
      readDocuments measure

/-- Reads a token without recognising reserved words. -/
def rawToken : (measure : Nat) → Parse Token
  | 0 => setToken .endOfFile
  | measure + 1 => do
    let reader ← get
    if reader.isPushedBack then
      set { reader with isPushedBack := false }
      return reader.token
    else
      skipBlanks measure
      match ← peek with
      | none => setToken .endOfFile
      | some '\n' =>
        let _ ← take
        setToken .newline
      | some c =>
        if c = '&' ∨ c = '|' ∨ c = ';' ∨ c = '(' ∨ c = ')' then
          let _ ← take
          operator c
        else if c = '<' ∨ c = '>' then
          let _ ← take
          redirection c none
        else
          let word := (← parts .base {} measure).toWord
          let follows ← peek
          match word, follows with
          | [.plain text], some d =>
            match (d = '<' ∨ d = '>' : Bool), text.toList with
            | true, [digit] =>
              if digit.isDigit then
                let _ ← take
                redirection d (some (digit.toNat - '0'.toNat))
              else keepWord word
            | _, _ => keepWord word
          | _, _ => keepWord word

/-- Makes a word the last token. -/
def keepWord (word : Word) : Parse Token := do
  let isQuoted := word.any fun part =>
    match part with
    | .quoted _ => true
    | .plain _ => false
    | .parameter _ _ quoted => quoted
    | .command _ quoted => quoted
    | .arithmetic _ quoted => quoted
  modify fun reader => { reader with word, isQuoted }
  setToken .word

/-- Skips newlines, reading the here-documents that were asked for before them. -/
def skipNewlines (token : Token) : (measure : Nat) → Parse Token
  | 0 => return token
  | measure + 1 => do
    if token = .newline then
      readDocuments measure
      let token ← rawToken measure
      skipNewlines token measure
    else return token

/-- Reads a token. -/
def readToken (lookout : Lookout) : (measure : Nat) → Parse Token
  | 0 => setToken .endOfFile
  | measure + 1 => do
    let before ← get
    let token ← rawToken measure
    let after := (← get).rest.length
    let isInvited : Bool := token != .newline && !before.isPushedBack &&
      before.replaced.any fun replacement => replacement.invites &&
        replacement.remaining < before.rest.length && after ≤ replacement.remaining
    let token ← if lookout.newlines then skipNewlines token measure else pure token
    let reader ← get
    match token, reader.isQuoted, plainText? reader.word with
    | .word, false, some text =>
      match if lookout.reserved then Token.reserved.find? (·.1 == text) else none with
      | some (_, keyword) => setToken keyword
      | none =>
        let remaining := reader.rest.length
        let active := reader.replaced.filter (·.remaining < remaining)
        match if lookout.aliases || isInvited then reader.aliases.get? text else none with
        | some value =>
          if active.any (·.name == text) then return token
          else
            let invites := value.endsWith " " || value.endsWith "\t"
            set { reader with
              rest := value.toList ++ reader.rest
              replaced := ⟨text, remaining, invites⟩ :: active }
            readToken { lookout with newlines := false, aliases := true } measure
        | none => return token
    | _, _, _ => return token

/-- Reads the target of a redirection whose operator has been read. -/
def redirectionTarget : (measure : Nat) → Parse Redirection
  | 0 => unexpected
  | measure + 1 => do
    let operator ← get
    if (← readToken {} measure) ≠ .word then unexpected
    else
      let reader ← get
      match operator.redirect with
      | some kind => return .file operator.descriptor kind reader.word
      | none =>
        let number := reader.nextDocument
        let document : PendingDocument :=
          ⟨number, wordText reader.word, reader.isQuoted, operator.stripsTabs⟩
        set { reader with nextDocument := number + 1, pending := reader.pending ++ [document] }
        return .document operator.descriptor number

/-- Reads a list of commands. In mode 1 a newline ends it; in mode 2 a token that ends lists may
come first. `done` holds the commands read. -/
def list (mode : Nat) (done : Command) : (measure : Nat) → Parse Command
  | 0 => unexpected
  | measure + 1 => do
    let endsAtNewline := mode % 2 = 1
    let token ← readToken ⟨!endsAtNewline, true, true⟩ measure
    match token with
    | .newline =>
      readDocuments measure
      return done
    | .endOfFile =>
      readDocuments measure
      let _ ← setToken .endOfFile
      pushBack
      return done
    | _ =>
      pushBack
      if mode = 2 ∧ token.endsList then return done
      else
        let command ← andOr measure
        let token ← readToken {} measure
        let command := if token = .ampersand then
            match command with
            | .pipeline commands _ => .pipeline commands true
            | .redirected _ body redirections => .background body redirections
            | other => .background other []
          else command
        let done := match done with
          | .empty => command
          | _ => .sequence done command
        match token with
        | .endOfFile =>
          readDocuments measure
          let _ ← setToken .endOfFile
          pushBack
          return done
        | .newline =>
          pushBack
          list (2 + mode % 2) done measure
        | .ampersand | .semicolon => list (2 + mode % 2) done measure
        | _ =>
          if endsAtNewline then unexpected
          else
            pushBack
            return done

/-- Reads pipelines joined by `&&` and `||`. -/
def andOr : (measure : Nat) → Parse Command
  | 0 => unexpected
  | measure + 1 => do
    let first ← pipeline {} measure
    andOrFrom first measure

/-- Reads the rest of a chain of pipelines. -/
def andOrFrom (first : Command) : (measure : Nat) → Parse Command
  | 0 => unexpected
  | measure + 1 => do
    match ← readToken {} measure with
    | .andAnd =>
      let second ← pipeline .all measure
      andOrFrom (.both first second) measure
    | .orOr =>
      let second ← pipeline .all measure
      andOrFrom (.either first second) measure
    | _ =>
      pushBack
      return first

/-- Reads commands joined by bars, possibly negated. -/
def pipeline (lookout : Lookout) : (measure : Nat) → Parse Command
  | 0 => unexpected
  | measure + 1 => do
    let isNegated := (← readToken lookout measure) = .bang
    let next : Lookout ← if isNegated then pure ⟨false, true, true⟩ else do
      pushBack
      pure {}
    let first ← command next measure
    let commands ← pipelineFrom [first] measure
    let whole := match commands with
      | [single] => single
      | several => .pipeline several false
    return if isNegated then .negate whole else whole

/-- Reads the rest of a pipeline; `done` holds the commands read, in reverse. -/
def pipelineFrom (done : List Command) : (measure : Nat) → Parse (List Command)
  | 0 => unexpected
  | measure + 1 => do
    if (← readToken {} measure) = .bar then
      let next ← command .all measure
      pipelineFrom (next :: done) measure
    else
      pushBack
      return done.reverse

/-- Reads one command. -/
def command (lookout : Lookout) : (measure : Nat) → Parse Command
  | 0 => unexpected
  | measure + 1 => do
    let line := (← get).line
    let close (token : Token) (body : Command) : Parse Command := do
      if (← readToken {} measure) ≠ token then unexpected (some token)
      else trailing line body measure
    match ← readToken lookout measure with
    | .if =>
      let body ← conditional measure
      close .fi body
    | .while =>
      let test ← list 0 .empty measure
      if (← readToken {} measure) ≠ .do then unexpected (some .do)
      else
        let body ← list 0 .empty measure
        close .done (.loop false test body)
    | .until =>
      let test ← list 0 .empty measure
      if (← readToken {} measure) ≠ .do then unexpected (some .do)
      else
        let body ← list 0 .empty measure
        close .done (.loop true test body)
    | .for =>
      let token ← readToken {} measure
      let reader ← get
      match token, reader.isQuoted, plainText? reader.word with
      | .word, false, some name =>
        if !isVariableName name then complain "Bad for loop variable"
        else
          let words ← loopWords measure
          if (← readToken .all measure) ≠ .do then unexpected (some .do)
          else
            let body ← list 0 .empty measure
            close .done (.each line name words body)
      | _, _, _ => complain "Bad for loop variable"
    | .case =>
      if (← readToken {} measure) ≠ .word then unexpected (some .word)
      else
        let word := (← get).word
        if (← readToken .all measure) ≠ .in then unexpected (some .in)
        else
          let clauses ← clauses [] measure
          trailing line (.select line word clauses) measure
    | .openParen =>
      let body ← list 0 .empty measure
      close .closeParen (.subshell line body [])
    | .openBrace =>
      let body ← list 0 .empty measure
      close .closeBrace body
    | .word | .redirection =>
      pushBack
      simple line ⟨[], [], []⟩ measure
    | _ => unexpected

/-- Reads the redirections that may follow a compound command. -/
def trailing (line : Nat) (body : Command) : (measure : Nat) → Parse Command
  | 0 => unexpected
  | measure + 1 => do
    let redirections ← redirections [] measure
    match redirections, body with
    | [], _ => return body
    | _, .subshell line inner _ => return .subshell line inner redirections
    | _, _ => return .redirected line body redirections

/-- Reads redirections; `done` holds those read, in reverse. -/
def redirections (done : List Redirection) : (measure : Nat) → Parse (List Redirection)
  | 0 => unexpected
  | measure + 1 => do
    if (← readToken ⟨false, true, true⟩ measure) = .redirection then
      let next ← redirectionTarget measure
      redirections (next :: done) measure
    else
      pushBack
      return done.reverse

/-- Reads a conditional from after its `if` or `elif` up to its end. -/
def conditional : (measure : Nat) → Parse Command
  | 0 => unexpected
  | measure + 1 => do
    let test ← list 0 .empty measure
    if (← readToken {} measure) ≠ .then then unexpected (some .then)
    else
      let yes ← list 0 .empty measure
      match ← readToken {} measure with
      | .elif =>
        let no ← conditional measure
        return .conditional test yes no
      | .else =>
        let no ← list 0 .empty measure
        return .conditional test yes no
      | _ =>
        pushBack
        return .conditional test yes .empty

/-- Reads the words that a `for` loop runs over. -/
def loopWords : (measure : Nat) → Parse (List Word)
  | 0 => unexpected
  | measure + 1 => do
    match ← readToken .all measure with
    | .in =>
      let words ← wordsFrom [] measure
      let token := (← get).token
      if token ≠ .newline ∧ token ≠ .semicolon then unexpected else return words
    | token =>
      if token ≠ .semicolon then pushBack
      return [[.parameter "@" .value true]]

/-- Reads words; `done` holds those read, in reverse. -/
def wordsFrom (done : List Word) : (measure : Nat) → Parse (List Word)
  | 0 => unexpected
  | measure + 1 => do
    if (← readToken {} measure) = .word then wordsFrom ((← get).word :: done) measure
    else
      if (← get).token = .newline then readDocuments measure
      return done.reverse

/-- Reads the clauses of a `case` up to its end; `done` holds those read, in reverse. -/
def clauses (done : List (List Word × Command)) :
    (measure : Nat) → Parse (List (List Word × Command))
  | 0 => unexpected
  | measure + 1 => do
    let token ← readToken ⟨true, true, false⟩ measure
    if token = .esac then return done.reverse
    else
      if token = .openParen then
        let _ ← readToken {} measure
      let patterns ← patternsFrom [] measure
      if (← get).token ≠ .closeParen then unexpected (some .closeParen)
      else
        let body ← list 2 .empty measure
        match ← readToken ⟨true, true, false⟩ measure with
        | .esac => return ((patterns, body) :: done).reverse
        | .doubleSemicolon => clauses ((patterns, body) :: done) measure
        | _ => unexpected (some .doubleSemicolon)

/-- Reads the patterns of a clause, the first of which is the last token; `done` holds those read,
in reverse. -/
def patternsFrom (done : List Word) : (measure : Nat) → Parse (List Word)
  | 0 => unexpected
  | measure + 1 => do
    let done := (← get).word :: done
    if (← readToken {} measure) = .bar then
      let _ ← readToken {} measure
      patternsFrom done measure
    else return done.reverse

/-- Reads a simple command or the definition of a function; `done` holds what has been read, in
reverse. -/
def simple (line : Nat)
    (done : List (String × Word) × List Word × List Redirection) :
    (measure : Nat) → Parse Command
  | 0 => unexpected
  | measure + 1 => do
    let (assignments, words, redirections) := done
    let finish : Parse Command := do
      pushBack
      return .simple line assignments.reverse words.reverse redirections.reverse
    let first := words.isEmpty
    match ← readToken { aliases := first } measure with
    | .word =>
      let word := (← get).word
      match if first then assignment? word else none with
      | some assignment => simple line (assignment :: assignments, words, redirections) measure
      | none => simple line (assignments, word :: words, redirections) measure
    | .redirection =>
      let next ← redirectionTarget measure
      simple line (assignments, words, next :: redirections) measure
    | .openParen =>
      match words, assignments, redirections with
      | [word], [], [] =>
        if (← readToken {} measure) ≠ .closeParen then unexpected (some .closeParen)
        else
          match plainText? word with
          | some name =>
            if !isVariableName name || specialNames.contains name then
              complain "Bad function name"
            else return .define name (← command .all measure)
          | none => complain "Bad function name"
      | _, _, _ => finish
    | _ => finish

end

end Parse

namespace Reader

/-- A measure that suffices for reading what is left. -/
def measure (reader : Reader) : Nat := 16 * reader.rest.length + 10000

/-- Reads the commands of the next line; there are none at the end of the text. -/
def next (reader : Reader) : Except ScriptFault (Option Command × Reader) :=
  let reader := { reader with isPushedBack := false, pending := [] }
  match (Parse.list 1 .empty reader.measure).run reader with
  | .error fault => .error fault
  | .ok (.empty, reader) =>
    .ok (if reader.token = .endOfFile then none else some .empty, reader)
  | .ok (command, reader) => .ok (some command, reader)

end Reader

end ArtifactLens.Shell
