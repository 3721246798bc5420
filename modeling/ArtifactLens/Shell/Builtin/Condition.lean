import ArtifactLens.Shell.Builtin.Basic

/-!
# Conditions

The command `test`, which is also written with brackets. A condition is made of tests on texts,
numbers and files, joined by `-a` and `-o`, negated by `!` and grouped by parentheses. How many
words there are decides whether a word that could be an operator is one.

The reader of a condition stands at a word; after a piece was read it stands at the last word of
that piece.
-/

namespace ArtifactLens.Shell

namespace Condition

/-- The kinds of words in a condition. -/
inductive Word where
  | finish
  | operand
  | unary (name : String)
  | binary (name : String)
  | conjunction
  | disjunction
  | negation
  | openParen
  | closeParen
  deriving DecidableEq

/-- The tests of one operand. -/
def unaries : List String :=
  ["-r", "-w", "-x", "-e", "-f", "-d", "-c", "-b", "-p", "-u", "-g", "-k", "-s", "-t", "-z", "-n",
    "-h", "-O", "-G", "-L", "-S"]

/-- The tests of two operands. -/
def binaries : List String :=
  ["=", "!=", "<", ">", "-eq", "-ne", "-ge", "-gt", "-le", "-lt", "-nt", "-ot", "-ef"]

/-- The operator that a word may be. -/
def operator? (word : String) : Option Word :=
  if unaries.contains word then some (.unary word)
  else if binaries.contains word then some (.binary word)
  else
    match word with
    | "-a" => some .conjunction
    | "-o" => some .disjunction
    | "!" => some .negation
    | "(" => some .openParen
    | ")" => some .closeParen
    | _ => none

/-- The word is a test of two operands. -/
def isBinary (word : String) : Bool := binaries.contains word

/-- The kind of the word that the reader stands at. -/
def kind : List String → Word
  | [] => .finish
  | word :: rest =>
    match operator? word with
    | none => .operand
    | some (.unary name) =>
      match rest with
      | [] => .operand
      | [_] => .unary name
      | next :: _ => if isBinary next then .operand else .unary name
    | some .openParen => if rest.isEmpty then .operand else .openParen
    | some other => other

/-- Reading a piece of a condition: its truth, and where the reader then stands. -/
abbrev Reading := Except String (Bool × List String)

/-- The value of a number. -/
def number (text : String) : Except String Int :=
  match Argument.integer? text with
  | some value => .ok value
  | none => .error (Argument.badNumber text)

/-- A file has what a test asks for. -/
def fileTest (disk : Disk) (here : FileNumber) (test path : String) : Bool :=
  match disk.inspect here path (test != "-h" && test != "-L") with
  | .error _ => false
  | .ok (_, file) =>
    match test with
    | "-e" | "-r" | "-w" => true
    | "-x" => file.isDirectory || file.mode &&& 0o111 != 0
    | "-f" => file.isRegular
    | "-d" => file.isDirectory
    | "-c" =>
      match file.body with
      | .device _ => true
      | _ => false
    | "-s" =>
      match file.body with
      | .octets content => content != ""
      | .program _ | .directory .. => true
      | _ => false
    | "-h" | "-L" => file.isLink
    | "-u" => file.mode &&& 0o4000 != 0
    | "-g" => file.mode &&& 0o2000 != 0
    | "-k" => file.mode &&& 0o1000 != 0
    | "-O" => file.owner == 0
    | "-G" => file.group == 0
    | "-N" => file.modified > file.accessed
    | _ => false

/-- When the file of a path was changed, if it is there. -/
def modified? (disk : Disk) (here : FileNumber) (path : String) : Option Int :=
  match disk.inspect here path with
  | .ok (_, file) => some file.modified
  | .error _ => none

/-- The truth of a test of one operand. -/
def unary (disk : Disk) (here : FileNumber) (test operand : String) : Except String Bool :=
  match test with
  | "-z" => .ok (operand == "")
  | "-n" => .ok (operand != "")
  | "-t" => (number operand).map fun _ => false
  | _ => .ok (fileTest disk here test operand)

/-- The truth of a test of two operands. -/
def binary (disk : Disk) (here : FileNumber) (test a b : String) : Except String Bool :=
  let compare (f : Int → Int → Bool) : Except String Bool := do
    return f (← number a) (← number b)
  match test with
  | "=" => .ok (a == b)
  | "!=" => .ok (a != b)
  | "<" => .ok (a < b)
  | ">" => .ok (b < a)
  | "-eq" => compare (· == ·)
  | "-ne" => compare (· != ·)
  | "-ge" => compare (· ≥ ·)
  | "-gt" => compare (· > ·)
  | "-le" => compare (· ≤ ·)
  | "-lt" => compare (· < ·)
  | "-ef" =>
    match disk.inspect here a, disk.inspect here b with
    | .ok (first, _), .ok (second, _) => .ok (first == second)
    | _, _ => .ok false
  | other =>
    match modified? disk here a, modified? disk here b with
    | some first, some second => .ok (if other = "-nt" then second < first else first < second)
    | _, _ => .ok false

mutual

/-- Pieces joined by `-o`. -/
def disjunction (disk : Disk) (here : FileNumber) (word : Word) : (measure : Nat) → List String → Reading
  | 0, _ => .error "unexpected operator"
  | measure + 1, words => do
    let (value, words) ← conjunction disk here word measure words
    if kind (words.drop 1) = .disjunction then
      let words := words.drop 2
      let (other, words) ← disjunction disk here (kind words) measure words
      return (value || other, words)
    else return (value, words)

/-- Pieces joined by `-a`. -/
def conjunction (disk : Disk) (here : FileNumber) (word : Word) : (measure : Nat) → List String → Reading
  | 0, _ => .error "unexpected operator"
  | measure + 1, words => do
    let (value, words) ← negation disk here word measure words
    if kind (words.drop 1) = .conjunction then
      let words := words.drop 2
      let (other, words) ← conjunction disk here (kind words) measure words
      return (value && other, words)
    else return (value, words)

/-- A piece that may be negated. -/
def negation (disk : Disk) (here : FileNumber) (word : Word) : (measure : Nat) → List String → Reading
  | 0, _ => .error "unexpected operator"
  | measure + 1, words => do
    if word = .negation then
      let next := kind (words.drop 1)
      let (value, words) ← negation disk here next measure
        (if next = .finish then words else words.drop 1)
      return (!value, words)
    else primary disk here word measure words

/-- A test, a group, or a word that must not be empty. -/
def primary (disk : Disk) (here : FileNumber) (word : Word) : (measure : Nat) → List String → Reading
  | 0, _ => .error "unexpected operator"
  | measure + 1, words => do
    match word with
    | .finish => return (false, words)
    | .openParen =>
      let words := words.drop 1
      let inner := kind words
      if inner = .closeParen then return (false, words)
      else
        let (value, words) ← disjunction disk here inner measure words
        let words := words.drop 1
        if kind words = .closeParen then return (value, words)
        else .error "closing paren expected"
    | .unary test =>
      match words.drop 1 with
      | [] => .error (test ++ ": argument expected")
      | operand :: rest => return (← unary disk here test operand, operand :: rest)
    | _ =>
      match words with
      | [] => return (false, [])
      | first :: rest =>
        match kind rest, rest with
        | .binary test, _ :: second :: _ =>
          return (← binary disk here test first second, rest.drop 1)
        | .binary test, _ => .error (test ++ ": argument expected")
        | _, _ => return (first != "", words)

end

/-- The status of a condition. `negated` tells that a word in front negates it. -/
def evaluate (disk : Disk) (here : FileNumber) (negated : Bool) :
    (measure : Nat) → List String → Except String Nat
  | 0, _ => .ok 1
  | measure + 1, words =>
    let start (first : Word) (words : List String) : Except String Nat := do
      let (value, words) ← disjunction disk here first (4 * words.length + 8) words
      match words with
      | word :: _ :: _ =>
        .error (if word = "" then "unexpected operator" else word ++ ": unexpected operator")
      | _ => return if value == negated then 1 else 0
    match words with
    | [] => .ok (if negated then 0 else 1)
    | first :: rest =>
      let count := words.length
      if count = 3 ∧ (rest.head?.any isBinary) then start .operand words
      else if count = 3 ∨ count = 4 then
        if first = "(" ∧ words.getLast? = some ")" then
          let words := rest.dropLast
          start (kind words) words
        else if first = "!" then evaluate disk here true measure rest
        else start (kind words) words
      else start (kind words) words

end Condition

/-- The command `test`, by the name under which it is called. -/
def Builtin.test (disk : Disk) (here : FileNumber) (shell : Shell) (name : String) (args : List String) :
    Reply :=
  let words : Except String (List String) :=
    if name = "[" then
      if args.getLast? = some "]" then .ok args.dropLast else .error "missing ]"
    else .ok args
  match words.bind fun words => Condition.evaluate disk here false (words.length + 1) words with
  | .ok status => { shell, status }
  | .error complaint => .refuse shell complaint

end ArtifactLens.Shell
