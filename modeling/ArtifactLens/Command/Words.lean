import ArtifactLens.Text.Blank

/-!
# Words of a command

A compile command is cut into words at blanks, except within a span between double quotes. A word
is a run of characters that are neither blanks nor double quotes, then possibly one span; the word
ends with the span. Quotes stay in the words, because the words are joined again for the shell.

Within a span a backslash and a double quote stand for a quote that does not close. A span holds at
least one character. Where no closing quote is found, the last quote that follows a backslash
closes the span; where there is none either, the opening quote is dropped.
-/

namespace ArtifactLens

namespace Words

/-- How many characters after an opening quote belong to its span, the closing quote included.
`taken` characters have been passed, and `escaped` is the count up to the last quote among them
that follows a backslash. -/
@[grind =]
def spanFrom (taken : Nat) (escaped : Option Nat) : List Char → Option Nat
  | [] => escaped
  | '"' :: _ => if taken = 0 then none else some (taken + 1)
  | '\\' :: '"' :: rest => spanFrom (taken + 2) (some (taken + 2)) rest
  | _ :: rest => spanFrom (taken + 1) escaped rest

/-- How many characters after an opening quote belong to its span, if it opens one. -/
def span? (text : List Char) : Option Nat := spanFrom 0 none text

/-- A run that was read, in reverse, before further words; an empty run is no word. -/
def emit (run : List Char) (words : List (List Char)) : List (List Char) :=
  if run.isEmpty then words else run.reverse :: words

/-- The words of a text, the first of which starts with the given run, in reverse. -/
def splitFrom (run : List Char) : List Char → List (List Char)
  | [] => emit run []
  | c :: rest =>
    if c = '"' then
      match span? rest with
      | some size => (run.reverse ++ '"' :: rest.take size) :: splitFrom [] (rest.drop size)
      | none => emit run (splitFrom [] rest)
    else if isBlank c then emit run (splitFrom [] rest)
    else splitFrom (c :: run) rest
  termination_by text => text.length
  decreasing_by all_goals (simp; try omega)

/-- The words of a command. -/
def split (command : String) : List String :=
  (splitFrom [] command.toList).map String.ofList

end Words

end ArtifactLens
