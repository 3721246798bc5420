/-!
# Blank characters

The white space that separates shell words, user-entered arguments and the fields of a line
directive: every character that Unicode calls white space, together with the four ASCII
information separators U+001C to U+001F. `words` cuts a text at runs of blanks.
-/

namespace ArtifactLens

/-- Inclusive ranges of the code points of the blank characters, in increasing order. -/
def blankRanges : List (Nat × Nat) :=
  [(0x09, 0x0d), (0x1c, 0x20), (0x85, 0x85), (0xa0, 0xa0), (0x1680, 0x1680), (0x2000, 0x200a),
    (0x2028, 0x2029), (0x202f, 0x202f), (0x205f, 0x205f), (0x3000, 0x3000)]

/-- The character separates words. -/
def isBlank (c : Char) : Bool :=
  blankRanges.any fun r => r.1 ≤ c.toNat && c.toNat ≤ r.2

/-- The ASCII space is a blank. -/
theorem isBlank_space : isBlank ' ' = true := by decide

namespace Blank

/-- Cuts a text into its maximal runs of non-blank characters. The accumulator holds the run
being read, in reverse. -/
def wordsFrom (run : List Char) : List Char → List (List Char)
  | [] => if run.isEmpty then [] else [run.reverse]
  | c :: rest =>
    if isBlank c then
      if run.isEmpty then wordsFrom [] rest else run.reverse :: wordsFrom [] rest
    else wordsFrom (c :: run) rest

/-- The maximal runs of non-blank characters of a text, in order. -/
def words (text : String) : List String :=
  (wordsFrom [] text.toList).map String.ofList

end Blank

end ArtifactLens
