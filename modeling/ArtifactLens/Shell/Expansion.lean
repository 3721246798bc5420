import ArtifactLens.Shell.Memory
import ArtifactLens.Shell.Pattern

/-!
# Expansion of words

A word becomes a list of fields: parameters, command substitutions and arithmetic are replaced by
their values, values outside quotes are split at separators, and patterns are replaced by the
paths that they match. While this goes on a word is a list of atoms, which remember of each
character where it came from.

Expansion runs no commands. It is given the outputs of the substitutions that were run so far; at
one more it is interrupted with the command to run, and starts anew once that output is known.
-/

namespace ArtifactLens.Shell

/-- Where a character of a word came from. -/
inductive Origin where
  /-- The word itself, outside quotes. -/
  | literal
  /-- A value that was put in outside quotes. -/
  | value
  /-- Within quotes. -/
  | quoted
  deriving DecidableEq, Repr

/-- A piece of an expanded word. -/
inductive Atom where
  | char (c : Char) (origin : Origin)
  /-- An empty text within quotes: there is a field even if nothing else is in it. -/
  | mark
  /-- A boundary between parameters, each of which is a field. -/
  | cut
  /-- A stretch begins that is looked through for separators; `cutsOnly` tells that nothing but
  boundaries between parameters are looked for. -/
  | stretch (cutsOnly : Bool)
  deriving DecidableEq, Repr

namespace Atom

/-- The atoms of the characters of a text. -/
def charsOf (origin : Origin) (text : String) : List Atom :=
  text.toList.map (Atom.char · origin)

/-- The atoms of a text. -/
def ofText (origin : Origin) (text : String) : List Atom :=
  match origin with
  | .quoted => .mark :: charsOf origin text
  | .value => .stretch false :: charsOf origin text
  | .literal => charsOf origin text

/-- The atoms of texts with boundaries between them. -/
def ofSeries (quoted : Bool) (texts : List String) : List Atom :=
  let origin : Origin := if quoted then .quoted else .value
  if quoted && texts.isEmpty then []
  else .stretch quoted :: ((texts.map (charsOf origin)).intersperse [.cut]).flatten

/-- The character of an atom that has one. -/
def char? : Atom → Option (Char × Origin)
  | .char c origin => some (c, origin)
  | .mark | .cut | .stretch _ => none

/-- The text of atoms. -/
def textOf (atoms : List Atom) : String :=
  String.ofList ((atoms.filterMap char?).map (·.1))

/-- The pattern that atoms spell. -/
def patternOf (atoms : List Atom) : List PatternChar :=
  (atoms.filterMap char?).map fun (c, origin) => ⟨c, origin == .quoted⟩

end Atom

/-! ### Fields -/

/-- The state of splitting: the fields done, in reverse, and the field being read, in reverse. -/
structure Splitting where
  fields : List (List Atom) := []
  field : List Atom := []
  /-- There is a field even if it is empty. -/
  isStarted : Bool := false
  /-- The last field ended with a blank, to which more separators may belong. -/
  isAfterBlank : Bool := false
  /-- The stretch is looked through for boundaries only. -/
  cutsOnly : Bool := false
  /-- The stretch before was looked through for boundaries only. -/
  isAfterCuts : Bool := false

namespace Splitting

/-- Ends the field. -/
def close (state : Splitting) : Splitting :=
  { state with fields := state.field.reverse :: state.fields, field := [], isStarted := false }

/-- Ends the field, if there is one. -/
def finish (state : Splitting) : Splitting :=
  if state.cutsOnly || state.isStarted then state.close else state

/-- Reads a separator. One that is a blank ends a field; any other one ends a field even if it is
empty, except that it may belong to the blanks before it. A blank does not gather others after a
stretch that was looked through for boundaries only. -/
def separate (state : Splitting) (isBlank : Bool) : Splitting :=
  if state.isAfterBlank then
    if isBlank then state else { state with isAfterBlank := false }
  else
    let gathers := isBlank && !state.cutsOnly && !state.isAfterCuts
    if gathers && !state.isStarted then state else { state.close with isAfterBlank := gathers }

/-- Reads an atom. -/
def step (separators : List Char) (state : Splitting) (atom : Atom) : Splitting :=
  match atom with
  | .mark => { state with isStarted := true }
  | .stretch cutsOnly =>
    { state with isAfterBlank := false, cutsOnly, isAfterCuts := state.cutsOnly }
  | .cut => state.separate true
  | .char c origin =>
    if origin = .value ∧ separators.contains c then
      state.separate (c == ' ' || c == '\t' || c == '\n')
    else { state with field := atom :: state.field, isStarted := true, isAfterBlank := false }

/-- The fields of atoms. -/
def split (separators : List Char) (atoms : List Atom) : List (List Atom) :=
  ((atoms.foldl (step separators) {}).finish).fields.reverse

end Splitting

/-! ### Paths that match -/

/-- Splits a pattern at its slashes. -/
def patternNames (pattern : List PatternChar) : List (List PatternChar) :=
  pattern.splitBy (fun a b => a.char != '/' && b.char != '/') |>.foldr
    (fun piece names =>
      match piece, names with
      | [⟨'/', _⟩], names => [] :: names
      | piece, _ :: rest => piece :: rest
      | piece, [] => [piece]) [[]]

/-- The text of elements that are all characters. -/
def literalText? (elements : List PatternElement) : Option String :=
  (elements.mapM fun element =>
    match element with
    | PatternElement.char c => some c
    | _ => none).map String.ofList

/-- The paths that match patterns for their names, one after another; `done` is the path so far. -/
def matchingPaths (disk : Disk) (here : FileNumber) (done : String) :
    List (List PatternChar) → List String
  | [] => [done]
  | name :: rest =>
    let elements : List PatternElement := Pattern.ofChars name
    match literalText? elements with
    | some text =>
      if rest.isEmpty then
        let path := done ++ text
        if (disk.inspect here path false).isOk then [path] else []
      else matchingPaths disk here (done ++ text ++ "/") rest
    | none =>
      match disk.inspect here (if done = "" then "." else done) with
      | .error _ => []
      | .ok (directory, _) =>
        let showsHidden := elements.head? = some (PatternElement.char '.')
        let names := (if showsHidden then [".", ".."] else []) ++ disk.list directory
        let found := names.filter fun entry =>
          (showsHidden || !entry.startsWith ".") && Pattern.isMatch elements entry.toList
        if rest.isEmpty then found.map (done ++ ·)
        else
          (found.filter fun entry =>
            match disk.inspect directory entry with
            | .ok (_, file) => file.isDirectory
            | _ => false).flatMap fun entry => matchingPaths disk here (done ++ entry ++ "/") rest

/-! ### Expansion -/

/-- Why expansion does not come to its end. -/
inductive Interruption where
  | fault (fault : ShellFault) (memory : Memory)
  /-- The output of a command is needed. -/
  | substitution (body : Command) (memory : Memory)

/-- The state of expansion: the memory, which words may change, and the outputs that are known. -/
structure Progress where
  memory : Memory
  answers : List String

/-- Expansion of a piece of a command. -/
abbrev Expand := StateT Progress (Except Interruption)

/-- How a word is expanded. -/
structure Context where
  disk : Disk
  directory : FileNumber
  /-- The word becomes any number of fields. -/
  fields : Bool
  /-- The word stands in a parameter expansion. -/
  isInner : Bool := false

namespace Expand

/-- Gives up. -/
def fail {α : Type} (complaint : String) : Expand α := do
  throw (.fault (.complaint complaint) (← get).memory)

/-- The result of an operation that may fail. -/
def lift {α : Type} : Except ShellFault α → Expand α
  | .ok value => pure value
  | .error fault => do throw (.fault fault (← get).memory)

/-- Changes the memory, which may fail. -/
def assign (name value : String) : Expand Unit := do
  let memory ← lift ((← get).memory.set name value)
  modify fun progress => { progress with memory }

/-- The output of a command, without the newlines at its end. -/
def outputOf (body : Command) : Expand String := do
  let progress ← get
  match progress.answers with
  | answer :: answers =>
    set { progress with answers }
    return String.ofList
      ((answer.toList.reverse.dropWhile (· == '\n')).filter (· != '\x00')).reverse
  | [] => throw (.substitution body progress.memory)

/-- The text between the parameters where they are joined. -/
def joint (memory : Memory) : String :=
  match memory.separators? with
  | none => " "
  | some separators => (separators.take 1).toString

/-- The value of a parameter as one text. -/
def value? (name : String) : Expand (Option String) := do
  let memory := (← get).memory
  if name = "@" ∨ name = "*" then
    return some (String.intercalate (joint memory) memory.positional)
  else return memory.parameter? name

/-- The parameter stands for all positional parameters, apart from each other. -/
def isSeries (context : Context) (name : String) (quoted : Bool) : Bool :=
  (name == "@" || name == "*") && context.fields && (!quoted || name == "@")

/-- The value of a parameter as atoms. -/
def atomsOf (context : Context) (name value : String) (quoted : Bool) : Expand (List Atom) := do
  let memory := (← get).memory
  let origin : Origin := if quoted then .quoted else .value
  if isSeries context name quoted then return Atom.ofSeries quoted memory.positional
  else return Atom.ofText origin value

/-- The home directory of an account, or that of the user for an empty name. -/
def home? (context : Context) (memory : Memory) (name : String) : Option String :=
  if name = "" then memory.get? "HOME"
  else
    match context.disk.inspect Disk.root "/etc/passwd" with
    | .ok (_, file) =>
      (file.content.splitOn "\n").findSome? fun line =>
        match line.splitOn ":" with
        | account :: _ :: _ :: _ :: _ :: home :: _ => if account = name then some home else none
        | _ => none
    | _ => none

/-- Replaces the tilde at the start of a text outside quotes; `isWhole` tells that the word ends
with the text, and `inAssignment` that a colon ends the name. -/
def replaceTilde (context : Context) (memory : Memory) (inAssignment isWhole : Bool)
    (text : List Char) : List Part :=
  let isEnd (c : Char) : Bool := c == '/' || (inAssignment && c == ':')
  match text with
  | '~' :: rest =>
    let name := rest.takeWhile fun c => !isEnd c
    if name.length = rest.length ∧ !isWhole then [.plain (String.ofList text)]
    else
      match home? context memory (String.ofList name) with
      | some home => [.quoted home, .plain (String.ofList (rest.drop name.length))]
      | none => [.plain (String.ofList text)]
  | _ => [.plain (String.ofList text)]

/-- Replaces the tildes of a word: the one at its start, and in an assignment those after a
colon. -/
def replaceTildes (context : Context) (memory : Memory) (inAssignment : Bool) (word : Word) :
    Word :=
  let pieces (isFirst isWhole : Bool) (text : String) : List Part :=
    let texts := if inAssignment then text.splitOn ":" else [text]
    let last := texts.length - 1
    (texts.zipIdx.map fun (piece, index) =>
      let fits := isFirst || index > 0
      let ends := isWhole || index < last
      (if index > 0 then [Part.plain ":"] else []) ++
        if fits then replaceTilde context memory inAssignment ends piece.toList
        else [.plain piece]).flatten
  let last := word.length - 1
  (word.zipIdx.map fun (part, index) =>
    match part with
    | .plain text => if text.contains '~' then pieces (index == 0) (index == last) text else [part]
    | other => [other]).flatten

/-- Expands a parameter to a value that it must have if the shell says so. -/
def required (name : String) (value : Option String) : Expand String := do
  match value with
  | some value => return value
  | none =>
    if (← get).memory.has 'u' then fail (name ++ ": parameter not set") else return ""

mutual

/-- Expands a part of a word. -/
def part (context : Context) : Part → Expand (List Atom)
  | .plain text => return Atom.ofText (if context.isInner then .value else .literal) text
  | .quoted text => return Atom.ofText .quoted text
  | .parameter name form quoted => parameter context name quoted form
  | .command body quoted => do
    return Atom.ofText (if quoted then .quoted else .value) (← outputOf body)
  | .arithmetic expression quoted => do
    let text := Atom.textOf (← parts { context with fields := false } expression)
    let (value, memory) ← lift ((← get).memory.evaluate text)
    modify fun progress => { progress with memory }
    return Atom.ofText (if quoted then .quoted else .value) (toString value)

/-- Expands parts of a word. -/
def parts (context : Context) : List Part → Expand (List Atom)
  | [] => return []
  | first :: rest => do
    let atoms ← part context first
    return atoms ++ (← parts context rest)

/-- Expands the word of a parameter expansion, with the tilde at its start. -/
def innerWord (context : Context) : List Part → Expand (List Atom)
  | [] => return []
  | .plain text :: rest => do
    let memory := (← get).memory
    let atoms := (replaceTilde context memory false rest.isEmpty text.toList).flatMap fun part =>
      match part with
      | .plain text => Atom.ofText .value text
      | .quoted text => Atom.ofText .quoted text
      | _ => []
    return atoms ++ (← parts context rest)
  | first :: rest => do
    let atoms ← part context first
    return atoms ++ (← parts context rest)

/-- Expands a parameter in a form. -/
def parameter (context : Context) (name : String) (quoted : Bool) :
    Form → Expand (List Atom)
  | .value => do atomsOf context name (← required name (← value? name)) quoted
  | .length => do
    let value ← required name (← value? name)
    return Atom.ofText (if quoted then .quoted else .value) (toString value.length)
  | .fallback kind orEmpty word => do
    let value ← value? name
    let count := (← get).memory.positional.length
    let isEmpty (text : String) : Bool :=
      if isSeries context name quoted && count > 1 then false else text == ""
    let present := value.filter fun text => !(orEmpty && isEmpty text)
    let inner : Context := { context with isInner := !quoted }
    match kind, present with
    | .alternative, none => return if quoted then [.mark] else []
    | .alternative, some _ | .use, none =>
      let atoms ← innerWord inner word
      return if quoted then .mark :: atoms else atoms
    | _, some text =>
      let atoms ← atomsOf context name text quoted
      return if quoted then .mark :: atoms else atoms
    | .assign, none =>
      let text := Atom.textOf (← innerWord { inner with fields := false } word)
      assign name text
      atomsOf context name text quoted
    | .complain, none =>
      if word.isEmpty then
        fail (name ++ ": parameter not set" ++ if orEmpty then " or null" else "")
      else
        let text := Atom.textOf (← innerWord { inner with fields := false } word)
        fail (name ++ ": " ++ text)
  | .trim atEnd longest pattern => do
    let value ← required name (← value? name)
    let atoms ← parts { context with fields := false } pattern
    let elements := Pattern.ofChars (Atom.patternOf atoms)
    let trim := if atEnd then Pattern.trimEnd else Pattern.trimStart
    let origin : Origin := if quoted then .quoted else .value
    if isSeries context name quoted then
      -- The parameters are trimmed as one text, with null characters between them.
      let whole := String.intercalate "\x00" (← get).memory.positional
      let left := trim elements longest whole.toList
      let atoms := Atom.ofSeries quoted ((String.ofList left).splitOn "\x00")
      return if quoted then .mark :: atoms else atoms
    else return Atom.ofText origin (String.ofList (trim elements longest value.toList))
  | .bad => fail "Bad substitution"

end

/-- Expands a word to one text. -/
def text (context : Context) (inAssignment : Bool) (word : Word) : Expand String := do
  let word := replaceTildes context (← get).memory inAssignment word
  return Atom.textOf (← parts { context with fields := false } word)

/-- Expands a word to a pattern. -/
def pattern (context : Context) (word : Word) : Expand (List PatternElement) := do
  let word := replaceTildes context (← get).memory false word
  return Pattern.ofChars (Atom.patternOf (← parts { context with fields := false } word))

/-- Expands a word to fields. -/
def fields (context : Context) (word : Word) : Expand (List String) := do
  let word := replaceTildes context (← get).memory false word
  let atoms ← parts { context with fields := true } word
  let memory := (← get).memory
  let separators := (memory.separators?.getD " \t\n").toList
  let isWild (field : List Atom) : Bool := (field.filterMap Atom.char?).any fun (c, origin) =>
    origin != .quoted && (c == '*' || c == '?' || c == '[')
  return (Splitting.split separators atoms).flatMap fun field =>
    if memory.has 'f' || !isWild field then [Atom.textOf field]
    else
      match matchingPaths context.disk context.directory "" (patternNames (Atom.patternOf field)) with
      | [] => [Atom.textOf field]
      | paths => paths.mergeSort fun a b => a ≤ b

/-- The commands to whose arguments the rules of assignments apply. -/
def assigning : List String := ["export", "readonly", "local", "alias"]

/-- Expands the words of a command; `done` holds the fields so far. -/
def commandFields (context : Context) (done : List String) : List Word → Expand (List String)
  | [] => return done
  | word :: rest => do
    let named := match done.dropWhile (· == "command") with
      | name :: _ => assigning.contains name
      | [] => false
    let assignment := match word with
      | .plain text :: more => (splitAssignment? text).map fun (name, value) =>
        (name, if value = "" then more else .plain value :: more)
      | _ => none
    let next ← match if named then assignment else none with
      | some (name, value) => do pure [name ++ "=" ++ (← text context true value)]
      | none => fields context word
    commandFields context (done ++ next) rest

end Expand

end ArtifactLens.Shell
