import ArtifactLens.Shell.Utility.Editing.Script

/-!
# Substituting and listing

How matches in a text are replaced (`Editing.substitute`), and how a text is listed so that every
octet of it can be told (`Editing.listing`).
-/

namespace ArtifactLens.Shell

namespace Utility.Editing

/-! ### Replacements -/

/-- A replacement as it is put together: the text so far in reverse, the change of case that lasts,
and the one for the next letter. -/
structure Assembly where
  done : List Nat := []
  lasting : CaseChange := .none
  once : CaseChange := .none

/-- The small or the capital letter for a character. -/
def changeCase (change : CaseChange) (glyph : Nat) : Nat :=
  match change with
  | .upper | .upperNext =>
    if Regex.isInClass "lower" glyph then Regex.otherCase glyph else glyph
  | .lower | .lowerNext =>
    if Regex.isInClass "upper" glyph then Regex.otherCase glyph else glyph
  | .none => glyph

/-- Adds characters to a replacement. -/
def Assembly.add (assembly : Assembly) (glyphs : List Nat) : Assembly :=
  glyphs.foldl (fun assembly glyph =>
    let change := if assembly.once = .none then assembly.lasting else assembly.once
    { assembly with done := changeCase change glyph :: assembly.done, once := .none }) assembly

/-- A part of the text under an expression. -/
def slice (subject : Regex.Subject) (first last : Nat) : List Nat :=
  (subject.chars.extract first last).toList

/-- The replacement of a match, after the text before it in reverse. `units` gives the characters of
a text. -/
def replacementOf (units : List Char → List Nat) (subject : Regex.Subject) (first : Nat)
    (spot : Regex.Spot) (pieces : List Piece) (before : List Nat) : List Nat :=
  let assembly := pieces.foldl (fun (assembly : Assembly) piece =>
    match piece with
    | .text text => assembly.add (units text)
    | .group 0 => assembly.add (slice subject first spot.position)
    | .group number =>
      match spot.groups.find? (·.1 == number) with
      | some (_, first, last) => assembly.add (slice subject first last)
      | none => assembly
    | .change .upperNext => { assembly with once := .upperNext }
    | .change .lowerNext => { assembly with once := .lowerNext }
    | .change change => { assembly with lasting := change, once := .none })
    { done := before }
  assembly.done

/-- Replaces matches from a position on; `count` were found before, and the last of them ended at
`last`. The result is the new text in reverse, and whether anything was replaced. -/
def replaceFrom (units : List Char → List Nat) (subject : Regex.Subject) (regex : Regex)
    (substitution : Substitution) :
    (measure : Nat) → (start count : Nat) → (last : Option Nat) → (done : List Nat) →
      (replaced : Bool) → List Nat × Bool
  | 0, _, _, _, done, replaced => (done, replaced)
  | measure + 1, start, count, last, done, replaced =>
    match regex.search subject start with
    | none => ((slice subject start subject.chars.size).reverse ++ done, replaced)
    | some (first, spot) =>
      let before := (slice subject start first).reverse ++ done
      let stepOver (done : List Nat) (count : Nat) (replaced : Bool) : List Nat × Bool :=
        match subject.chars[first]? with
        | none => (done, replaced)
        | some c =>
          replaceFrom units subject regex substitution measure (first + 1) count none (c :: done)
            replaced
      if spot.position = first ∧ last = some first then stepOver before count replaced
      else
        let count := count + 1
        let matched := slice subject first spot.position
        if count < substitution.nth then
          if spot.position = first then stepOver before count replaced
          else
            replaceFrom units subject regex substitution measure spot.position count
              (some spot.position) (matched.reverse ++ before) replaced
        else
          let done := replacementOf units subject first spot substitution.replacement before
          if !substitution.everywhere then
            ((slice subject spot.position subject.chars.size).reverse ++ done, true)
          else if spot.position = first then stepOver done count true
          else
            replaceFrom units subject regex substitution measure spot.position count
              (some spot.position) done true

/-- The text in which matches of an expression are replaced, if there are any to be replaced. -/
def substitute (units : List Char → List Nat) (subject : Regex.Subject) (regex : Regex)
    (substitution : Substitution) : Option (List Nat) :=
  let (done, replaced) := replaceFrom units subject regex substitution
    (2 * subject.chars.size + 3) 0 0 none [] false
  if replaced then some done.reverse else none

/-! ### Listings -/

/-- An octet as it is listed. -/
def listed (c : Char) : String :=
  match c with
  | '\\' => "\\\\"
  | '\x07' => "\\a"
  | '\x08' => "\\b"
  | '\x0c' => "\\f"
  | '\n' => "\\n"
  | '\r' => "\\r"
  | '\t' => "\\t"
  | '\x0b' => "\\v"
  | c =>
    if 0x20 ≤ c.toNat ∧ c.toNat < 0x7f then String.singleton c
    else
      let n := c.toNat
      "\\" ++ toString (n / 64) ++ toString (n / 8 % 8) ++ toString (n % 8)

/-- A text as it is listed, in lines of a width with a mark between them; no width stands for lines
without end. -/
def listing (width : Nat) (separator : Char) (text : String) : String :=
  let (done, _) := text.toList.foldl (fun (done, column) c =>
    let piece := listed c
    if width > 0 ∧ column + piece.length > width - 1 then 
      (piece :: String.ofList ['\\', separator] :: done, piece.length)
    else (piece :: done, column + piece.length)) (([] : List String), 0)
  String.join done.reverse ++ "$"

end Utility.Editing

end ArtifactLens.Shell
