import ArtifactLens.Table

/-!
# The shell language

The commands and words of the shell, as they are after parsing. A word is a list of parts; whether
a part stood within quotes decides how its value is treated after expansion.

The bodies of here-documents are read after the line that asks for them. A redirection therefore
names its body by a number, under which the parser files it.
-/

namespace ArtifactLens.Shell

/-- What a parameter expansion does when the parameter has no value, or an empty one. -/
inductive Fallback where
  /-- Use a word. -/
  | use
  /-- Use a word and keep it as the value. -/
  | assign
  /-- Give up with a word as the complaint. -/
  | complain
  /-- Use a word in the opposite case, and nothing in this one. -/
  | alternative
  deriving DecidableEq, Repr

/-- How a redirection treats its target. -/
inductive Redirect where
  | read
  | write
  /-- Write even where files are protected. -/
  | clobber
  | append
  | readWrite
  /-- Share another descriptor. -/
  | share
  deriving DecidableEq, Repr

mutual

/-- A part of a word. -/
inductive Part where
  /-- Text outside quotes. -/
  | plain (text : String)
  /-- Text within quotes, or after a backslash. -/
  | quoted (text : String)
  /-- The value of a parameter. -/
  | parameter (name : String) (form : Form) (quoted : Bool)
  /-- The output of a command. -/
  | command (body : Command) (quoted : Bool)
  /-- The value of an arithmetic expression. -/
  | arithmetic (expression : List Part) (quoted : Bool)

/-- What is taken of a parameter. -/
inductive Form where
  | value
  /-- The number of octets of the value. -/
  | length
  /-- What depends on the parameter having a value. With `orEmpty` an empty value counts as none. -/
  | fallback (kind : Fallback) (orEmpty : Bool) (word : List Part)
  /-- The value without a piece that matches a pattern, at its start or its end. -/
  | trim (atEnd longest : Bool) (pattern : List Part)
  /-- An expansion that the language does not have. -/
  | bad

/-- A redirection of a descriptor. -/
inductive Redirection where
  | file (descriptor : Nat) (kind : Redirect) (target : List Part)
  /-- Reads the here-document with a number. -/
  | document (descriptor : Nat) (number : Nat)

/-- A command. Line numbers are those of messages about the command. -/
inductive Command where
  | empty
  | simple (line : Nat) (assignments : List (String × List Part)) (words : List (List Part))
      (redirections : List Redirection)
  | pipeline (commands : List Command) (background : Bool)
  | negate (body : Command)
  | both (first second : Command)
  | either (first second : Command)
  | sequence (first second : Command)
  | redirected (line : Nat) (body : Command) (redirections : List Redirection)
  | background (body : Command) (redirections : List Redirection)
  | subshell (line : Nat) (body : Command) (redirections : List Redirection)
  | conditional (test yes no : Command)
  | loop (isUntil : Bool) (test body : Command)
  | each (line : Nat) (name : String) (words : List (List Part)) (body : Command)
  | select (line : Nat) (word : List Part) (clauses : List (List (List Part) × Command))
  | define (name : String) (body : Command)

end

/-- A word: parts that are joined after expansion. -/
abbrev Word := List Part

instance : Inhabited Command := ⟨.empty⟩

/-- The character can start a name. -/
def isNameStart (c : Char) : Bool :=
  ('a' ≤ c && c ≤ 'z') || ('A' ≤ c && c ≤ 'Z') || c == '_'

/-- The character can stand in a name. -/
def isNameChar (c : Char) : Bool := isNameStart c || ('0' ≤ c && c ≤ '9')

/-- The text is the name of a variable. -/
def isVariableName (text : String) : Bool :=
  match text.toList with
  | [] => false
  | c :: rest => isNameStart c && rest.all isNameChar

/-- Splits a text `name=value` at the equals sign. -/
def splitAssignment? (text : String) : Option (String × String) :=
  let chars := text.toList
  let name := chars.takeWhile isNameChar
  match chars.drop name.length with
  | '=' :: value =>
    if isVariableName (String.ofList name) then some (String.ofList name, String.ofList value)
    else none
  | _ => none

end ArtifactLens.Shell
