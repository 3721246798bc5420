import ArtifactLens.Shell.Regex.Reading
import ArtifactLens.Shell.Utility.Editing.Escape
import ArtifactLens.Shell.Utility.Version

/-!
# Reading editing scripts

A script is read text by text, each of them an expression or a file; blocks, labels and the text of
a command may go on from one to the next. `Editing.readScript` answers the commands of a script, or
what is told of its first fault.
-/

namespace ArtifactLens.Shell

namespace Utility.Editing

/-- How scripts are written. -/
structure Dialect where
  /-- Expressions are extended ones. -/
  extended : Bool
  isUtf8 : Bool
  /-- There is only what the standard has. -/
  strict : Bool
  /-- Commands that reach beyond the stream are refused. -/
  confined : Bool

/-- A file that a script reads line by line or writes. -/
structure NamedFile where
  name : String
  isWritten : Bool
  deriving DecidableEq

/-- Why there is no script, and the files that were named before that was known. -/
structure Refusal where
  text : String
  status : Nat
  files : List NamedFile

/-- The state of reading: the characters left of a text, the place reached, and what was read
before. -/
structure Reader where
  rest : List Char := []
  place : Place
  /-- The commands, the last one first. -/
  commands : List Command := []
  /-- Where open blocks began. -/
  blocks : List Place := []
  /-- The files that were named, the last one first. -/
  files : List NamedFile := []
  /-- What was read of the text of the last command, if it goes on in the next text of the script. -/
  pending : Option (List Char) := none
  /-- Nothing is to be put out that was not asked for. -/
  quiet : Bool := false
  /-- This is the first text of the script. -/
  isFirst : Bool := true

/-- Reading a script. -/
abbrev Read := ReaderT Dialect (StateT Reader (Except Refusal))

/-- Gives up on a script. -/
def refuse {α : Type} (text : String) (status : Nat) : Read α := do
  throw ⟨text, status, (← get).files.reverse⟩

/-- Gives up on a script at a place. -/
def failAt {α : Type} (place : Place) (fault : Fault) : Read α := refuse (place.tell fault) 1

/-- Gives up on a script where reading has come. -/
def fail {α : Type} (fault : Fault) : Read α := do failAt (← get).place fault

/-- What reads escapes, as a step of reading a script. -/
def unescape {α : Type} (escape : Except Fault α) : Read α :=
  match escape with
  | .ok value => return value
  | .error fault => fail fault

/-! ### Characters -/

/-- Takes the next character; there is none at the end of a text. -/
def next : Read (Option Char) := do
  let reader ← get
  match reader.rest with
  | [] => return none
  | c :: rest =>
    let place := reader.place
    set { reader with
      rest, place := { place with
        count := place.count + 1, line := if c = '\n' then place.line + 1 else place.line } }
    return some c

/-- Puts a character back that was taken. -/
def back (c : Option Char) : Read Unit :=
  match c with
  | none => return
  | some c => modify fun reader => { reader with
      rest := c :: reader.rest
      place := { reader.place with
        count := reader.place.count - 1
        line := if c = '\n' then reader.place.line - 1 else reader.place.line } }

/-- A bound on what is left to be read. -/
def bound : Read Nat := return (← get).rest.length + 2

/-- The character is a blank within a line. -/
def isBlank (c : Char) : Bool := c == ' ' || c == '\t'

/-- The character is a blank or ends a line. -/
def isSpace (c : Char) : Bool := isBlank c || c == '\n' || c == '\r' || c == '\x0b' || c == '\x0c'

/-- Takes the first character that is none of some. -/
def nextPast (skips : Char → Bool) : (measure : Nat) → Read (Option Char)
  | 0 => return none
  | measure + 1 => do
    match ← next with
    | some c => if skips c then nextPast skips measure else return some c
    | none => return none

/-- Takes the next character that is no blank. -/
def nextVisible : Read (Option Char) := do nextPast isBlank (← bound)

/-- Takes characters up to one that does not fit, which is put back; `done` holds them in reverse. -/
def takeFrom (fits : Char → Bool) (done : List Char) :
    (measure : Nat) → Option Char → Read (List Char)
  | 0, _ => return done.reverse
  | _ + 1, none => return done.reverse
  | measure + 1, some c => do
    if fits c then takeFrom fits (c :: done) measure (← next)
    else
      back (some c)
      return done.reverse

/-- Takes a number that begins with a character. -/
def numberFrom (c : Option Char) : Read Nat := do
  return Digit.numeral (← takeFrom Char.isDigit [] (← bound) c)

/-! ### Texts between delimiters -/

/-- Where reading is within a set. -/
inductive SetState where
  | outside
  /-- After a bracket. -/
  | opened
  /-- In a name that a mark has begun. -/
  | named (mark : Char)
  /-- After a mark that may end the name. -/
  | closing (mark : Char)

/-- Takes the characters of a set up to its closing bracket, which is not among them; `done` holds
them in reverse. Answers the character after them too. -/
def takeSet (done : List Char) (state : SetState) :
    (measure : Nat) → Option Char → Read (List Char × Option Char)
  | 0, c => return (done, c)
  | _ + 1, none => return (done, none)
  | measure + 1, some c => do
    let goOn (state : SetState) : Read (List Char × Option Char) := do
      takeSet (c :: done) state measure (← next)
    if c = '\n' then return (done, some c)
    else if c = ']' then
      match state with
      | .outside | .opened => return (done, some c)
      | .closing _ => goOn .outside
      | .named mark => goOn (.named mark)
    else if c = '[' then
      match state with
      | .outside => goOn .opened
      | state => goOn state
    else
      let isMark := c == '.' || c == ':' || c == '='
      match state with
      | .opened => goOn (if isMark then .named c else .outside)
      | .named mark => goOn (if c = mark then .closing mark else .named mark)
      | .closing mark => goOn (.named mark)
      | .outside => goOn .outside

/-- Reads up to a delimiter; without one there is nothing. An escaped delimiter stands for itself, and
in an expression a delimiter within a set is a member of it. -/
def delimited (delimiter : Char) (isPattern : Bool) (done : List Char) :
    (measure : Nat) → Read (Option (List Char))
  | 0 => return none
  | measure + 1 => do
    match ← next with
    | none => return none
    | some '\n' =>
      back (some '\n')
      return none
    | some c =>
      if c = delimiter then return some done.reverse
      else if c = '\\' then
        match ← next with
        | none => return none
        | some d =>
          if d = 'n' ∧ isPattern then delimited delimiter isPattern ('\n' :: done) measure
          else if d = '\n' ∨ (d = delimiter ∧ (isPattern ∨ d ≠ '&')) then
            delimited delimiter isPattern (d :: done) measure
          else delimited delimiter isPattern (d :: '\\' :: done) measure
      else if c = '[' ∧ isPattern then
        let first ← next
        let (done, first) ← if first = some '^' then
            pure (('^' :: c :: done), ← next)
          else pure (c :: done, first)
        let (done, first) ← if first = some ']' then pure ((']' :: done), ← next)
          else pure (done, first)
        match ← takeSet done .outside (← bound) first with
        | (done, some ']') => delimited delimiter isPattern (']' :: done) measure
        | (_, c) =>
          back c
          return none
      else delimited delimiter isPattern (c :: done) measure

/-- Takes a delimiter, which is one octet. -/
def delimiterFrom (c : Option Char) : Read Char := do
  let c := c.getD '\n'
  if c.toNat ≥ 0x80 ∧ (← read).isUtf8 then fail .wideDelimiter else return c

/-- The characters of a text. -/
def glyphs (text : List Char) : Read (List Nat) := do
  return if (← read).isUtf8 then OctetText.units text else text.map Char.toNat

/-- The expression that a text spells. -/
def pattern (text : List Char) (ignoresCase hasLines : Bool) : Read Pattern := do
  if text.isEmpty then
    if ignoresCase ∨ hasLines then fail .flagsWithoutPattern
    else return { regex := none }
  else
    let dialect ← read
    let style : Regex.Style := if dialect.extended then .extended else .basic
    let style := { style with
      sparesNewline := hasLines, isStrict := dialect.strict
      allowsStray := style.allowsStray || (dialect.extended && dialect.strict) }
    match Regex.parse style (← glyphs (← unescape (Escape.inPattern text.length text))) with
    | .error fault => fail (.regex fault.message)
    | .ok reading =>
      if reading.looksNamed then refuse Regex.namedSetComplaint 4
      else
        return { regex := some reading.regex, ignoresCase, hasLines, groups := reading.groups }

/-! ### Addresses -/

/-- Reads the flags of an address. -/
def addressFlags (ignoresCase hasLines : Bool) : (measure : Nat) → Read (Bool × Bool)
  | 0 => return (ignoresCase, hasLines)
  | measure + 1 => do
    let c ← nextVisible
    let strict := (← read).strict
    if c = some 'I' ∧ !strict then addressFlags true hasLines measure
    else if c = some 'M' ∧ !strict then addressFlags ignoresCase true measure
    else
      back c
      return (ignoresCase, hasLines)

/-- Reads an address that begins with a character, if one does. -/
def addressFrom (c : Option Char) : Read (Option RangeEnd) := do
  match c with
  | none => return none
  | some '$' => return some (.at .last)
  | some c =>
    let strict := (← read).strict
    if c = '/' ∨ c = '\\' then
      let delimiter ← delimiterFrom (← if c = '\\' then next else pure (some c))
      match ← delimited delimiter true [] (← bound) with
      | none => fail .unterminatedPattern
      | some text =>
        let (ignoresCase, hasLines) ← addressFlags false false (← bound)
        let pattern ← pattern text ignoresCase hasLines
        return some (.at (.pattern { pattern with isAddress := true }))
    else if c.isDigit then
      let first ← numberFrom (some c)
      let sign ← nextVisible
      if sign = some '~' ∧ !strict then
        let step ← numberFrom (← nextVisible)
        return some (.at (if step = 0 then .line first else .step first step))
      else
        back sign
        return some (.at (.line first))
    else if (c = '+' ∨ c = '~') ∧ !strict then
      let count ← numberFrom (← nextVisible)
      return some (if c = '+' then .after count else .multiple count)
    else return none

/-! ### The parts of commands -/

/-- Reads the end of a command: the end of the line, or a mark. -/
def commandEnd : Read Unit := do
  match ← nextVisible with
  | none | some '\n' | some ';' => return
  | some c =>
    if c = '\x7d' ∨ c = '#' then back (some c)
    else fail .extraCharacters

/-- Reads a label. -/
def label : Read String := do
  let fits (c : Char) : Bool := !isSpace c && c != ';' && c != '\x7d' && c != '#'
  return String.ofList (← takeFrom fits [] (← bound) (← nextVisible))

/-- Reads the name of a file, which goes up to the end of the line. -/
def fileName : Read String := do
  if (← read).confined then fail .forbidden
  else
    let name ← takeFrom (· != '\n') [] (← bound) (← nextVisible)
    let _ ← next
    if name.isEmpty then fail .missingFile else return String.ofList name

/-- Reads the name of a file that is opened before the script is carried out. -/
def namedFile (isWritten : Bool) : Read String := do
  let name ← fileName
  modify fun reader =>
    if reader.files.contains ⟨name, isWritten⟩ then reader
    else { reader with files := ⟨name, isWritten⟩ :: reader.files }
  return name

/-- Takes a text up to the end of its line; escaped characters go with their backslashes. `done` holds
it in reverse. Answers whether the text is complete. -/
def rawText (done : List Char) : (measure : Nat) → Read (List Char × Bool)
  | 0 => return (done, true)
  | measure + 1 => do
    match ← next with
    | none | some '\n' => return ('\n' :: done, true)
    | some '\\' =>
      match ← next with
      | none => return ('\n' :: done, false)
      | some c => rawText (c :: '\\' :: done) measure
    | some c => rawText (c :: done) measure

/-- The text that was taken for a command. -/
def finishText (raw : List Char) : Read String := do
  let text := raw.reverse
  return String.ofList (← unescape (Escape.inText text.length text))

/-- Reads the text of a command, and keeps it pending if it is not complete. -/
def commandText (use : TextUse) (raw : List Char) : Read Action := do
  let (raw, isComplete) ← rawText raw (← bound)
  if isComplete then return .withText use (← finishText raw)
  else
    modify fun reader => { reader with pending := some raw }
    return .withText use ""

/-- Reads the text of a command that begins with a character: on the lines after a backslash, or on
the same line. -/
def textFrom (use : TextUse) (c : Option Char) : Read Action := do
  match c with
  | none => fail .missingText
  | some '\\' =>
    match ← next with
    | none =>
      modify fun reader => { reader with pending := some [] }
      return .withText use ""
    | some '\n' => commandText use []
    | c =>
      back c
      commandText use []
  | c =>
    if (← read).strict then fail .missingText
    else
      back c
      commandText use []

/-- The flags of a substitution. -/
structure Flags where
  nth : Option Nat := none
  everywhere : Bool := false
  prints : Bool := false
  printsFirst : Bool := false
  runs : Bool := false
  ignoresCase : Bool := false
  hasLines : Bool := false
  file : Option String := none

/-- Reads the flags of a substitution. -/
def flags (done : Flags) : (measure : Nat) → Read Flags
  | 0 => return done
  | measure + 1 => do
    let strict := (← read).strict
    match ← next with
    | none | some '\n' | some ';' => return done
    | some c =>
      match c with
      | 'g' =>
        if done.everywhere then fail .manyGlobals
        else flags { done with everywhere := true } measure
      | 'p' =>
        if done.prints then fail .manyPrints
        else flags { done with prints := true, printsFirst := !done.runs } measure
      | 'w' => return { done with file := some (← namedFile true) }
      | '\x7d' | '#' =>
        back (some c)
        return done
      | '\r' => if (← next) = some '\n' then return done else fail .unknownFlag
      | _ =>
        if isBlank c then flags done measure
        else if c.isDigit then
          if done.nth.isSome then fail .manyNumbers
          else
            let nth ← numberFrom (some c)
            if nth = 0 then fail .zeroNumber else flags { done with nth := some nth } measure
        else if strict then fail .unknownFlag
        else
          match c with
          | 'i' | 'I' => flags { done with ignoresCase := true } measure
          | 'm' | 'M' => flags { done with hasLines := true } measure
          | 'e' => flags { done with runs := true } measure
          | _ => fail .unknownFlag

/-- The greatest group that a replacement names. -/
def greatestGroup (pieces : List Piece) : Nat :=
  pieces.foldl (fun greatest piece =>
    match piece with
    | .group number => max greatest number
    | _ => greatest) 0

/-- A replacement without the changes of case, whose letters stand for themselves. -/
def withoutChanges (pieces : List Piece) : List Piece :=
  pieces.map fun piece =>
    match piece with
    | .change .upper => .text ['U']
    | .change .lower => .text ['L']
    | .change .upperNext => .text ['u']
    | .change .lowerNext => .text ['l']
    | .change .none => .text ['E']
    | piece => piece

/-- Reads a substitution from after its letter. -/
def substitution : Read Action := do
  let delimiter ← delimiterFrom (← next)
  match ← delimited delimiter true [] (← bound) with
  | none => fail .unterminatedSubstitution
  | some text =>
    match ← delimited delimiter false [] (← bound) with
    | none => fail .unterminatedSubstitution
    | some replacement =>
      let dialect ← read
      let pieces ← unescape (Escape.inReplacement [] (replacement.length + 1) replacement)
      let pieces := if dialect.strict then withoutChanges pieces else pieces
      let flags ← flags {} (← bound)
      let pattern ← pattern text flags.ignoresCase flags.hasLines
      let greatest := greatestGroup pieces
      if pattern.regex.isSome ∧ greatest > pattern.groups ∧ !dialect.strict then
        fail (.missingGroup greatest)
      else if flags.runs ∧ dialect.confined then fail .forbidden
      else
        return .substitute {
          pattern, replacement := pieces, nth := flags.nth.getD 1, everywhere := flags.everywhere
          runs := flags.runs, prints := flags.prints, printsFirst := flags.printsFirst
          file := flags.file }

/-- Reads an exchange of characters from after its letter. -/
def exchange : Read Action := do
  let delimiter ← delimiterFrom (← next)
  match ← delimited delimiter false [] (← bound) with
  | none => fail .unterminatedExchange
  | some old =>
    match ← delimited delimiter false [] (← bound) with
    | none => fail .unterminatedExchange
    | some new =>
      let old ← glyphs (← unescape (Escape.inText old.length old))
      let new ← glyphs (← unescape (Escape.inText new.length new))
      if old.length ≠ new.length then fail .unequalLengths
      else
        commandEnd
        return .replace old new

/-! ### Commands -/

/-- The letters of commands that the standard does not have. -/
def extensions : List Char := ['e', 'F', 'v', 'z', 'L', 'Q', 'T', 'R', 'W']

/-- The letters of commands that have one address at most in the standard. -/
def limitedByStandard : List Char := ['a', 'i', 'l', '=', 'r']

/-- The action of a letter that stands alone. -/
def plainAction? : Char → Option Action
  | '=' => some .number
  | 'd' => some .delete
  | 'D' => some .deleteFirst
  | 'F' => some .nameInput
  | 'g' => some .get
  | 'G' => some .appendGet
  | 'h' => some .hold
  | 'H' => some .appendHold
  | 'n' => some .next
  | 'N' => some .appendNext
  | 'p' => some .print
  | 'P' => some .printFirst
  | 'z' => some .clear
  | 'x' => some .exchange
  | _ => none

/-- Reads a number after a letter, if there is one. -/
def numberAfter : Read (Option Nat) := do
  let c ← nextVisible
  if c.any Char.isDigit ∧ !(← read).strict then return some (← numberFrom c)
  else
    back c
    return none

/-- Reads an action by its letter; some letters give none. -/
def action (letter : Char) (shape : Command) : Read (Option Action) := do
  match plainAction? letter with
  | some action =>
    commandEnd
    return some action
  | none =>
    match letter with
    | '#' =>
      if shape.first.isSome then fail .addressedComment
      let reader ← get
      let isMark := reader.isFirst && reader.place.count == 1 &&
        (reader.rest == ['n'] || reader.rest.take 2 == ['n', '\n'])
      modify fun reader => { reader with quiet := reader.quiet || isMark }
      let _ ← takeFrom (· != '\n') [] (← bound) (← next)
      return none
    | 'v' =>
      let edition ← label
      if edition ≠ "" ∧ Version.order edition.toList "4.9".toList = .gt then fail .newerEdition
      return none
    | '\x7b' =>
      modify fun reader => { reader with blocks := reader.place :: reader.blocks }
      return some .openBlock
    | '\x7d' =>
      match (← get).blocks with
      | [] => fail .unexpectedBrace
      | _ :: blocks =>
        if shape.first.isSome then fail .addressedBrace
        commandEnd
        modify fun reader => { reader with blocks }
        return some .closeBlock
    | 'e' =>
      if (← read).confined then fail .forbidden
      match ← nextVisible with
      | none | some '\n' => return some (.withText .run "")
      | c => return some (← textFrom .run c)
    | 'a' => return some (← textFrom .append (← nextVisible))
    | 'i' => return some (← textFrom .insert (← nextVisible))
    | 'c' => return some (← textFrom .change (← nextVisible))
    | ':' =>
      if shape.first.isSome then fail .addressedLabel
      let name ← label
      if name = "" then fail .missingLabel
      return some (.label name)
    | 'b' => return some (.branch (← label))
    | 't' => return some (.branchIfChanged (← label))
    | 'T' => return some (.branchUnlessChanged (← label))
    | 'q' | 'Q' =>
      if shape.last.isSome then fail .oneAddress
      let status ← numberAfter
      commandEnd
      return some (.quit (status.getD 0) (letter == 'Q'))
    | 'l' | 'L' =>
      let width ← numberAfter
      commandEnd
      return some (if letter = 'l' then .list width else .vacant letter)
    | 'r' => return some (.readFile (← fileName))
    | 'R' => return some (.readLine (← namedFile false))
    | 'w' => return some (.writeFile (← namedFile true))
    | 'W' => return some (.writeFirst (← namedFile true))
    | 's' => return some (← substitution)
    | 'y' => return some (← exchange)
    | c => fail (.unknownCommand c)

/-- Reads the addresses of a command that begins with a character; answers the character after
them too. -/
def addresses (c : Option Char) : Read (Command × Option Char) := do
  match ← addressFrom c with
  | none => return ({ action := .closeBlock }, c)
  | some start =>
    let first ← match start with
      | .at first => pure first
      | .after 0 | .multiple 0 => pure .anywhere
      | .after _ | .multiple _ => fail .relativeFirst
    let c ← nextVisible
    let (last, c) ← if c = some ',' then do
        match ← addressFrom (← nextVisible) with
        | none => fail .unexpectedComma
        | some last => pure (some last, ← nextVisible)
      else pure (none, c)
    let endsByPattern : Bool := match last with
      | some (.at (.pattern _)) => true
      | _ => false
    match first with
    | .line 0 =>
      let isStart := last.isNone && c == some 'r'
      if !(endsByPattern ∨ isStart) ∨ (← read).strict then fail .lineZero
      else return ({ first := some first, last, action := .closeBlock }, c)
    | _ => return ({ first := some first, last, action := .closeBlock }, c)

/-- Reads the commands of a text. -/
def readCommands : (measure : Nat) → Read Unit
  | 0 => return
  | measure + 1 => do
    match ← nextPast (fun c => c == ';' || isSpace c) (← bound) with
    | none => return
    | c => do
      let (shape, c) ← addresses c
      let negated := c == some '!'
      let c ← if negated then nextVisible else pure c
      if negated ∧ c = some '!' then fail .manyNegations
      match c with
      | none => fail .missingCommand
      | some letter =>
        if (← read).strict then
          if extensions.contains letter then fail (.unknownCommand letter)
          if limitedByStandard.contains letter ∧ shape.last.isSome then fail .oneAddress
        match ← action letter shape with
        | some action =>
          modify fun reader =>
            { reader with commands := { shape with negated, action } :: reader.commands }
        | none => pure ()
        readCommands measure

/-- Gives the last command the text that was taken for it. -/
def completeText (raw : List Char) : Read Unit := do
  let text ← finishText raw
  modify fun reader => { reader with
    pending := none
    commands := match reader.commands with
      | command :: before =>
        match command.action with
        | .withText use _ => { command with action := .withText use text } :: before
        | _ => command :: before
      | [] => [] }

/-- Reads a text of a script. -/
def readPart (origin : Origin) (text : String) : Read Unit := do
  modify fun reader => { reader with rest := text.toList, place := ⟨origin, 0, 1⟩ }
  match (← get).pending with
  | none => pure ()
  | some raw =>
    let (raw, isComplete) ← rawText raw (← bound)
    if isComplete then completeText raw else modify fun reader => { reader with pending := some raw }
  readCommands (text.length + 1)
  modify fun reader => { reader with isFirst := false }

/-- A script as it was read. -/
structure Script where
  commands : Array Command
  files : List NamedFile
  /-- Nothing is to be put out that was not asked for. -/
  quiet : Bool
  /-- Where the last text of the script begins. -/
  start : Place

/-- Reads the texts of a script. -/
def readParts (parts : List (Origin × String)) : Read Script := do
  for (origin, text) in parts do
    readPart origin text
  match (← get).pending with
  | some raw => completeText raw
  | none => pure ()
  let reader ← get
  match reader.blocks with
  | place :: _ => failAt { place with count := 0 } .unmatchedBrace
  | [] => pure ()
  let labels := reader.commands.filterMap fun command =>
    match command.action with
    | .label name => some name
    | _ => none
  match (reader.commands.filterMap (·.action.target?)).find? (!labels.contains ·) with
  | some name => refuse ("can't find label for jump to \x60" ++ name ++ "'") 4
  | none =>
    return {
      commands := reader.commands.reverse.toArray, files := reader.files.reverse
      quiet := reader.quiet, start := { reader.place with count := 0 } }

/-- The script that some texts spell. -/
def readScript (dialect : Dialect) (parts : List (Origin × String)) : Except Refusal Script :=
  (((readParts parts).run dialect).run { place := ⟨.expression 1, 0, 1⟩ }).map (·.1)

end Utility.Editing

end ArtifactLens.Shell
