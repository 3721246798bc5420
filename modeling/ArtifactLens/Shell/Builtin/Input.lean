import ArtifactLens.Shell.Builtin.Basic

/-!
# Reading lines into variables

The command `read` splits a line into fields, one for each variable. The last variable takes all
that is left.
-/

namespace ArtifactLens.Shell

namespace Input

/-- A character of a line, with whether a backslash stood before it. -/
abbrev LineChar := Char × Bool

/-- The line goes on after its newline, which a backslash takes away. -/
def goesOn (text : String) : Bool :=
  let before := text.toList.reverse.drop 1
  (before.takeWhile (· == '\\')).length % 2 = 1

/-- The characters of a line, without its newline and without the backslashes that escape. -/
def characters (raw : Bool) : List Char → List LineChar
  | '\\' :: c :: rest =>
    if raw then ('\\', false) :: characters raw (c :: rest)
    else if c = '\n' then characters raw rest
    else (c, true) :: characters raw rest
  | ['\\'] => if raw then [('\\', false)] else []
  | '\n' :: rest => characters raw rest
  | '\x00' :: rest => characters raw rest
  | c :: rest => (c, false) :: characters raw rest
  | [] => []

/-- The character is a separator that is a blank. -/
def isBlank (separators : List Char) (c : LineChar) : Bool :=
  !c.2 && separators.contains c.1 && (c.1 == ' ' || c.1 == '\t' || c.1 == '\n')

/-- The character is a separator. -/
def isSeparator (separators : List Char) (c : LineChar) : Bool := !c.2 && separators.contains c.1

/-- Drops a separator with the blanks around it. -/
def dropSeparator (separators : List Char) (text : List LineChar) : List LineChar :=
  match text.dropWhile (isBlank separators) with
  | c :: rest =>
    if isSeparator separators c then rest.dropWhile (isBlank separators) else c :: rest
  | [] => []

/-- What the last variable takes: the rest without blanks at its end, and without a separator at
its end if there is no other. -/
def lastField (separators : List Char) (text : List LineChar) : List LineChar :=
  let field := text.takeWhile fun c => !isSeparator separators c
  if (dropSeparator separators (text.drop field.length)).isEmpty then field
  else (text.reverse.dropWhile (isBlank separators)).reverse

/-- The fields of a line for a number of variables. -/
def fields (separators : List Char) : (count : Nat) → List LineChar → List String
  | 0, _ => []
  | 1, text => [String.ofList ((lastField separators text).map (·.1))]
  | count + 1, text =>
    let field := text.takeWhile fun c => !isSeparator separators c
    String.ofList (field.map (·.1)) ::
      fields separators count (dropSeparator separators (text.drop field.length))

/-- Gives the fields of a line to variables. -/
def assign (memory : Memory) (raw : Bool) (names : List String) (text : String) :
    Except ShellFault Memory :=
  let separators := (memory.separators?.getD " \t\n").toList
  let line := (characters raw text.toList).dropWhile (isBlank separators)
  (names.zip (fields separators names.length line)).foldlM
    (fun memory entry => memory.set entry.1 entry.2) memory

end Input

end ArtifactLens.Shell
