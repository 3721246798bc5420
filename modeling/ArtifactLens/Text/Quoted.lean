import ArtifactLens.Text.Digit
import ArtifactLens.Text.Unprintable

/-!
# Quoted text

How a message shows a text whose bounds matter, such as a path or a rejected name: between single
quotes, or between double quotes when it holds a single quote and no double quote. The quote, the
backslash and unprintable characters are escaped.
-/

namespace ArtifactLens

namespace Quoted

/-- The quote that encloses a text. -/
def quoteOf (text : List Char) : Char :=
  if text.contains '\'' && !text.contains '"' then '"' else '\''

/-- An escape by number with the fewest of two, four or eight hexadecimal digits. -/
def byNumber (code : Nat) : List Char :=
  if code < 0x100 then '\\' :: 'x' :: (Digit.padLeft 2 '0' (Digit.hex code)).toList
  else if code < 0x10000 then '\\' :: 'u' :: (Digit.padLeft 4 '0' (Digit.hex code)).toList
  else '\\' :: 'U' :: (Digit.padLeft 8 '0' (Digit.hex code)).toList

/-- One character between quotes of the given kind. -/
def escape (quote c : Char) : List Char :=
  if c = quote || c = '\\' then ['\\', c]
  else if c = '\n' then ['\\', 'n']
  else if c = '\r' then ['\\', 'r']
  else if c = '\t' then ['\\', 't']
  else if Unprintable.isUnprintable c then byNumber c.toNat
  else [c]

/-- A text with its quotes. -/
def quote (text : String) : String :=
  let q := quoteOf text.toList
  String.ofList (q :: text.toList.flatMap (escape q) ++ [q])

end Quoted

end ArtifactLens
