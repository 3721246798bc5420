import ArtifactLens.Shell.Job
import ArtifactLens.Text.Digit
import ArtifactLens.Text.Unprintable

/-!
# Quotes in messages

Programs put quotes around texts that are not their own. Words of a call stand between typographic
quotes, with backslashes for what cannot be shown (`Invocation.quote`). Names of files are spelled
so that a shell reads them as one word (`Invocation.quoteName`), without quotes where none are needed
in `Invocation.quoteWord`, and so they stand in front of complaints (`Invocation.quoteTitle`).
-/

namespace ArtifactLens.Shell

namespace Quoting

/-- The letter that stands for a control character after a backslash. -/
def escapeLetter? (code : Nat) : Option Char :=
  match code with
  | 7 => some 'a'
  | 8 => some 'b'
  | 9 => some 't'
  | 10 => some 'n'
  | 11 => some 'v'
  | 12 => some 'f'
  | 13 => some 'r'
  | _ => none

/-- An octet by its number after a backslash. -/
def octal (octet : Char) : List Char :=
  let n := octet.toNat
  ['\\', Digit.hexDigit (n / 64 % 8), Digit.hexDigit (n / 8 % 8), Digit.hexDigit (n % 8)]

/-- The escape of a unit that cannot be shown, given its octets. -/
def escape (unit : OctetText.Glyph) (octets : List Char) : List Char :=
  match escapeLetter? unit with
  | some letter => ['\\', letter]
  | none => octets.flatMap octal

end Quoting

namespace Invocation

/-- The unit is shown as itself. -/
def isShown (call : Invocation) (unit : OctetText.Glyph) : Bool :=
  if unit < 0x80 then 0x20 ≤ unit && unit < 0x7f
  else call.isUtf8 && unit < OctetText.strayBase && Unprintable.isDisplayed (Char.ofNat unit)

/-- A text between quotes, as messages have it. -/
def quote (call : Invocation) (text : String) : String :=
  let (start, stop) := if call.isUtf8 then ('‘', '’') else ('\'', '\'')
  let spell (unit : OctetText.Glyph) : List Char :=
    let octets := call.ofGlyphs [unit]
    if unit = '\\'.toNat ∨ unit = stop.toNat then '\\' :: octets
    else if call.isShown unit then octets
    else Quoting.escape unit octets
  OctetText.ofText (String.singleton start) ++
    String.ofList ((call.glyphs text.toList).flatMap spell) ++
    OctetText.ofText (String.singleton stop)

/-- The unit means the same between single and between double quotes; `first` tells that it is the
first one, and `alone` that it is the only one. -/
def isPlain (call : Invocation) (first alone : Bool) (unit : OctetText.Glyph) : Bool :=
  let c := Char.ofNat unit
  if unit ≥ 0x80 then call.isShown unit
  else if c = '{' ∨ c = '}' then alone
  else if c = '#' ∨ c = '~' then first
  else c.isAlphanum || " '%+,-./:]_".contains c

/-- The units between single quotes; those that cannot be shown stand in quotes with escapes, and
`escaping` tells that such quotes are open. -/
def betweenQuotes (call : Invocation) (escaping : Bool) : List OctetText.Glyph → List Char
  | [] => []
  | unit :: rest =>
    let octets := call.ofGlyphs [unit]
    if unit = '\''.toNat then ['\'', '\\', '\'', '\''] ++ betweenQuotes call false rest
    else if call.isShown unit then
      (if escaping then ['\'', '\''] else []) ++ octets ++ betweenQuotes call false rest
    else
      (if escaping then [] else ['\'', '$', '\'']) ++ Quoting.escape unit octets ++
        betweenQuotes call true rest

/-- The name of a file between quotes, as a shell reads it. -/
def quoteName (call : Invocation) (text : String) : String :=
  let units := call.glyphs text.toList
  let alone := units.length == 1
  let plain := units.take 1 |>.all (call.isPlain true alone)
  if text.contains '\'' ∧ plain ∧ (units.drop 1).all (call.isPlain false alone) then
    "\"" ++ text ++ "\""
  else "'" ++ String.ofList (call.betweenQuotes false units) ++ "'"

/-- The unit keeps a shell from reading a word as it is. -/
def needsQuotes (call : Invocation) (first alone : Bool) (unit : OctetText.Glyph) : Bool :=
  let c := Char.ofNat unit
  if unit ≥ 0x80 then !call.isShown unit
  else if c = '{' ∨ c = '}' then alone
  else if c = '#' ∨ c = '~' then first
  else !call.isShown unit || "?\\ !\"$&()*;<=>[^\x60|'".contains c

/-- A text as a word of a shell, in quotes only if it needs them. -/
def quoteWord (call : Invocation) (text : String) : String :=
  let units := call.glyphs text.toList
  let alone := units.length == 1
  if units.isEmpty ∨ (units.take 1).any (call.needsQuotes true alone) ∨
      (units.drop 1).any (call.needsQuotes false alone) then call.quoteName text
  else text

/-- The name of a file as complaints begin with it; a colon in it needs quotes too. -/
def quoteTitle (call : Invocation) (text : String) : String :=
  if text.contains ':' then call.quoteName text else call.quoteWord text

/-- A text between double quotes with backslashes for what cannot be shown, or as it is if nothing in
it asks for that. -/
def quotePlain (call : Invocation) (text : String) : String :=
  let units := call.glyphs text.toList
  let asks (unit : OctetText.Glyph) : Bool :=
    unit == '"'.toNat || unit == ':'.toNat || !call.isShown unit
  let spell (unit : OctetText.Glyph) : List Char :=
    let octets := call.ofGlyphs [unit]
    if unit = '"'.toNat ∨ unit = '\\'.toNat then '\\' :: octets
    else if call.isShown unit then octets
    else Quoting.escape unit octets
  if units.any asks then "\"" ++ String.ofList (units.flatMap spell) ++ "\"" else text

end Invocation

end ArtifactLens.Shell
