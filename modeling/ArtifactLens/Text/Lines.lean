/-!
# Line ends

Two conventions meet in one text. A file read as text has `\r\n` and `\r` turned into `\n`
(`normalize`). The lines of a listing end at any of the line boundaries of Unicode (`split`);
a boundary at the very end starts no further line.
-/

namespace ArtifactLens

namespace Lines

/-- Writes every line end as a single line feed; `done` is what has been written, in reverse. -/
@[grind =]
def normalizeFrom (done : List Char) : List Char → List Char
  | [] => done.reverse
  | '\r' :: '\n' :: rest => normalizeFrom ('\n' :: done) rest
  | c :: rest => normalizeFrom ((if c = '\r' then '\n' else c) :: done) rest

/-- Writes every line end as a single line feed: `\r\n` and a lone `\r` become `\n`. -/
def normalize (text : List Char) : List Char := normalizeFrom [] text

/-- The character ends a line. -/
def isBoundary (c : Char) : Bool :=
  (0x0a ≤ c.toNat && c.toNat ≤ 0x0d) || (0x1c ≤ c.toNat && c.toNat ≤ 0x1e) ||
    c.toNat == 0x85 || c.toNat == 0x2028 || c.toNat == 0x2029

/-- Cuts a text at its line boundaries, `\r\n` being one of them. The accumulator holds the line
being read, in reverse. -/
def splitFrom (line : List Char) : List Char → List (List Char)
  | [] => if line.isEmpty then [] else [line.reverse]
  | '\r' :: '\n' :: rest => line.reverse :: splitFrom [] rest
  | c :: rest =>
    if isBoundary c then line.reverse :: splitFrom [] rest else splitFrom (c :: line) rest

/-- The lines of a text, without their ends. -/
def split (text : List Char) : List (List Char) := splitFrom [] text

end Lines

end ArtifactLens
