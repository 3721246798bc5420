import ArtifactLens.Text.Utf8

/-!
# Octet texts

Inside the shell a text is a sequence of octets of which any may occur. Such a text is kept as a
string each of whose characters stands for the octet of the same number, so that ASCII reads as
itself. `ofText` and `toOctets` lead into and out of this form; `units` groups the octets of
well-formed sequences, for tools that count characters.
-/

namespace ArtifactLens.Shell

namespace OctetText

/-- The octet text of octets. -/
def ofOctets (octets : Octets) : String :=
  String.ofList (octets.map fun octet => Char.ofNat octet.toNat)

/-- The octets of an octet text. -/
def toOctets (text : String) : Octets := text.toList.map fun c => UInt8.ofNat c.toNat

/-- The octet text of a text in UTF-8. -/
def ofText (text : String) : String :=
  if text.toList.all fun c => c.toNat < 0x80 then text else ofOctets (Utf8.encode text)

/-- A character, or an octet that belongs to none. Such octets are numbered from 0x200000 on,
beyond the code points. -/
abbrev Glyph := Nat

/-- The number from which on units are octets that belong to no character. -/
def strayBase : Nat := 0x200000

/-- Groups octets into characters; `done` holds the units read, in reverse. -/
def unitsFrom (done : List Glyph) : List Char → List Glyph
  | [] => done.reverse
  | c :: rest =>
    if c.toNat < 0x80 then unitsFrom (c.toNat :: done) rest
    else
      let ahead := (rest.take 3).map fun c => UInt8.ofNat c.toNat
      match Utf8.scan (UInt8.ofNat c.toNat) ahead with
      | .char decoded size => unitsFrom (decoded.toNat :: done) (rest.drop (size - 1))
      | .ill .. => unitsFrom ((strayBase + c.toNat) :: done) rest
  termination_by octets => octets.length
  decreasing_by all_goals (simp; try omega)

/-- The units of an octet text. -/
def units (text : List Char) : List Glyph := unitsFrom [] text

/-- The octets of a unit. -/
def ofUnit (unit : Glyph) : List Char :=
  if unit ≥ strayBase then [Char.ofNat (unit - strayBase)]
  else if unit < 0x80 then [Char.ofNat unit]
  else (ofOctets (Utf8.encode (String.singleton (Char.ofNat unit)))).toList

/-- The octets of units. -/
def ofUnits (units : List Glyph) : List Char := units.flatMap ofUnit

end OctetText

end ArtifactLens.Shell
