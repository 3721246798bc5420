import ArtifactLens.Number.Rounding

/-!
# Digests by blocks

A digest is a number of fixed size that tells texts apart. Most digests are made alike: a bit and
zeros are put after the octets of the text, then its length, so that they fill blocks of sixteen words;
a state of words is stirred with one block after another; and the digest is the start of what comes
of it. `Blocks` says what is particular to each of them.

* MD5 has 128 bits. Its constants are the leading bits of the sines of 1 to 64.
* SHA-1 has 160 bits.
* SM3 has 256 bits, and its steps mix words of a block with one another as well.
-/

namespace ArtifactLens.Shell

namespace Digest

/-- The octets of a text, each of whose characters is one. -/
def octets (text : String) : ByteArray :=
  text.foldl (fun data c => data.push c.toNat.toUInt8) (ByteArray.emptyWithCapacity text.length)

/-- The octets of a number, so many of them, the least significant one first. -/
def littleEndian (size n : Nat) : List UInt8 :=
  (List.range size).map fun i => (n / 256 ^ i).toUInt8

/-- The octets of a number in the order asked for. -/
def ofNumber (isBigEndian : Bool) (size n : Nat) : List UInt8 :=
  let octets := littleEndian size n
  if isBigEndian then octets.reverse else octets

/-- The octet at a place, and zero where there is none. -/
def octetAt (data : ByteArray) (i : Nat) : UInt8 := if h : i < data.size then data[i] else 0

/-- The number that octets spell, the most significant one first. -/
def bigEndianValue (octets : List UInt8) : Nat :=
  octets.foldl (fun n octet => 256 * n + octet.toNat) 0

/-- The number that octets spell in the order given. -/
def valueOf (isBigEndian : Bool) (octets : List UInt8) : Nat :=
  bigEndianValue (if isBigEndian then octets else octets.reverse)

/-- A kind of digest that is made by blocks of sixteen words. -/
structure Blocks (Word : Type) where
  /-- The octets of a word. -/
  wordSize : Nat
  isBigEndian : Bool
  ofNat : Nat → Word
  toNat : Word → Nat
  /-- The state at the start. -/
  start : Array Word
  /-- The state that a block leads to. -/
  stir : (state block : Array Word) → Array Word
  /-- The octets of the digest. -/
  size : Nat

namespace Blocks

variable {Word : Type} (kind : Blocks Word)

/-- The octets of a block. -/
def blockSize : Nat := 16 * kind.wordSize

/-- What is put after a text of so many octets. -/
def padding (length : Nat) : List UInt8 :=
  let lengthSize := 2 * kind.wordSize
  let used := (length + 1 + lengthSize) % kind.blockSize
  let zeros := if used = 0 then 0 else kind.blockSize - used
  0x80 :: List.replicate zeros 0 ++ ofNumber kind.isBigEndian lengthSize (8 * length)

/-- The block that starts at an octet. -/
def blockAt (data : ByteArray) (start : Nat) : Array Word :=
  ((List.range 16).map fun i =>
    let first := start + i * kind.wordSize
    kind.ofNat (valueOf kind.isBigEndian
      ((List.range kind.wordSize).map fun j => octetAt data (first + j)))).toArray

/-- The digest of octets. -/
def digest (data : ByteArray) : List UInt8 :=
  let whole := (kind.padding data.size).foldl ByteArray.push data
  let blocks := whole.size / kind.blockSize
  let state := (List.range blocks).foldl
    (fun state i => kind.stir state (kind.blockAt whole (i * kind.blockSize))) kind.start
  (state.toList.flatMap fun word =>
    ofNumber kind.isBigEndian kind.wordSize (kind.toNat word)).take kind.size

end Blocks

/-- A word of 32 bits, turned to the left. -/
def turnLeft (word count : UInt32) : UInt32 := (word <<< count) ||| (word >>> (32 - count))

/-- A word of 64 bits, turned to the right. -/
def turnRight (word count : UInt64) : UInt64 := (word >>> count) ||| (word <<< (64 - count))

/-! ### MD5 -/

namespace Md5

/-- `2 ^ 32` times the sines of 1 to 64, without their signs and fractions. -/
def sines : Array UInt32 := #[
  0xd76aa478, 0xe8c7b756, 0x242070db, 0xc1bdceee, 0xf57c0faf, 0x4787c62a, 0xa8304613, 0xfd469501,
  0x698098d8, 0x8b44f7af, 0xffff5bb1, 0x895cd7be, 0x6b901122, 0xfd987193, 0xa679438e, 0x49b40821,
  0xf61e2562, 0xc040b340, 0x265e5a51, 0xe9b6c7aa, 0xd62f105d, 0x02441453, 0xd8a1e681, 0xe7d3fbc8,
  0x21e1cde6, 0xc33707d6, 0xf4d50d87, 0x455a14ed, 0xa9e3e905, 0xfcefa3f8, 0x676f02d9, 0x8d2a4c8a,
  0xfffa3942, 0x8771f681, 0x6d9d6122, 0xfde5380c, 0xa4beea44, 0x4bdecfa9, 0xf6bb4b60, 0xbebfbc70,
  0x289b7ec6, 0xeaa127fa, 0xd4ef3085, 0x04881d05, 0xd9d4d039, 0xe6db99e5, 0x1fa27cf8, 0xc4ac5665,
  0xf4292244, 0x432aff97, 0xab9423a7, 0xfc93a039, 0x655b59c3, 0x8f0ccc92, 0xffeff47d, 0x85845dd1,
  0x6fa87e4f, 0xfe2ce6e0, 0xa3014314, 0x4e0811a1, 0xf7537e82, 0xbd3af235, 0x2ad7d2bb, 0xeb86d391]

/-- How far words are turned in each round, by the number of the step. -/
def turns : Array (Array UInt32) :=
  #[#[7, 12, 17, 22], #[5, 9, 14, 20], #[4, 11, 16, 23], #[6, 10, 15, 21]]

/-- How three words are mixed in a step, and which word of the block goes in. -/
def mix (step : Nat) (b c d : UInt32) : UInt32 × Nat :=
  match step / 16 with
  | 0 => ((b &&& c) ||| (~~~b &&& d), step)
  | 1 => ((d &&& b) ||| (~~~d &&& c), (5 * step + 1) % 16)
  | 2 => (b ^^^ c ^^^ d, (3 * step + 5) % 16)
  | _ => (c ^^^ (b ||| ~~~d), 7 * step % 16)

/-- The state that a block leads to. -/
def stir (state block : Array UInt32) : Array UInt32 :=
  let word (i : Nat) : UInt32 := state.getD i 0
  let (a, b, c, d) := (List.range 64).foldl (fun (a, b, c, d) step =>
    let (mixed, index) := mix step b c d
    let sum := mixed + a + sines.getD step 0 + block.getD index 0
    (d, b + turnLeft sum ((turns.getD (step / 16) #[]).getD (step % 4) 0), b, c))
    (word 0, word 1, word 2, word 3)
  #[word 0 + a, word 1 + b, word 2 + c, word 3 + d]

end Md5

/-- The digest MD5. -/
def md5 : Blocks UInt32 where
  wordSize := 4
  isBigEndian := false
  ofNat := Nat.toUInt32
  toNat := UInt32.toNat
  start := #[0x67452301, 0xefcdab89, 0x98badcfe, 0x10325476]
  stir := Md5.stir
  size := 16

/-! ### SHA-1 -/

namespace Sha1

/-- The words that go into the steps: those of the block, and each further one from earlier ones. -/
def schedule (block : Array UInt32) : Array UInt32 :=
  (List.range 64).foldl (fun words i =>
    let word (back : Nat) : UInt32 := words.getD (16 + i - back) 0
    words.push (turnLeft (word 3 ^^^ word 8 ^^^ word 14 ^^^ word 16) 1)) block

/-- How three words are mixed in a step, with the constant of the round. -/
def mix (step : Nat) (b c d : UInt32) : UInt32 :=
  match step / 20 with
  | 0 => ((b &&& c) ||| (~~~b &&& d)) + 0x5a827999
  | 1 => (b ^^^ c ^^^ d) + 0x6ed9eba1
  | 2 => ((b &&& c) ||| (b &&& d) ||| (c &&& d)) + 0x8f1bbcdc
  | _ => (b ^^^ c ^^^ d) + 0xca62c1d6

/-- The state that a block leads to. -/
def stir (state block : Array UInt32) : Array UInt32 :=
  let word (i : Nat) : UInt32 := state.getD i 0
  let words := schedule block
  let (a, b, c, d, e) := (List.range 80).foldl (fun (a, b, c, d, e) step =>
    (turnLeft a 5 + mix step b c d + e + words.getD step 0, a, turnLeft b 30, c, d))
    (word 0, word 1, word 2, word 3, word 4)
  #[word 0 + a, word 1 + b, word 2 + c, word 3 + d, word 4 + e]

end Sha1

/-- The digest SHA-1. -/
def sha1 : Blocks UInt32 where
  wordSize := 4
  isBigEndian := true
  ofNat := Nat.toUInt32
  toNat := UInt32.toNat
  start := #[0x67452301, 0xefcdab89, 0x98badcfe, 0x10325476, 0xc3d2e1f0]
  stir := Sha1.stir
  size := 20

/-! ### SM3 -/

namespace Sm3

/-- Spreads the bits of a word of the block. -/
def spread (x : UInt32) : UInt32 := x ^^^ turnLeft x 15 ^^^ turnLeft x 23

/-- The words that go into the steps: those of the block, and each further one from earlier ones. -/
def schedule (block : Array UInt32) : Array UInt32 :=
  (List.range 52).foldl (fun words i =>
    let word (back : Nat) : UInt32 := words.getD (16 + i - back) 0
    words.push (spread (word 16 ^^^ word 9 ^^^ turnLeft (word 3) 15) ^^^ turnLeft (word 13) 7 ^^^
      word 6)) block

/-- The state that a block leads to. -/
def stir (state block : Array UInt32) : Array UInt32 :=
  let start (i : Nat) : UInt32 := state.getD i 0
  let words := schedule block
  let word (i : Nat) : UInt32 := words.getD i 0
  let (a, b, c, d, e, f, g, h) :=
    (List.range 64).foldl (fun (a, b, c, d, e, f, g, h) step =>
      let early : Bool := step < 16
      let constant : UInt32 := if early then 0x79cc4519 else 0x7a879d8a
      let turned := turnLeft constant (step % 32).toUInt32
      let one := turnLeft (turnLeft a 12 + e + (if step % 32 = 0 then constant else turned)) 7
      let most := if early then a ^^^ b ^^^ c else (a &&& b) ||| (a &&& c) ||| (b &&& c)
      let choice := if early then e ^^^ f ^^^ g else (e &&& f) ||| (~~~e &&& g)
      let first := most + d + (one ^^^ turnLeft a 12) + (word step ^^^ word (step + 4))
      let second := choice + h + one + word step
      (first, a, turnLeft b 9, c, second ^^^ turnLeft second 9 ^^^ turnLeft second 17, e,
        turnLeft f 19, g))
      (start 0, start 1, start 2, start 3, start 4, start 5, start 6, start 7)
  #[start 0 ^^^ a, start 1 ^^^ b, start 2 ^^^ c, start 3 ^^^ d, start 4 ^^^ e, start 5 ^^^ f,
    start 6 ^^^ g, start 7 ^^^ h]

end Sm3

/-- The digest SM3. -/
def sm3 : Blocks UInt32 where
  wordSize := 4
  isBigEndian := true
  ofNat := Nat.toUInt32
  toNat := UInt32.toNat
  start := #[0x7380166f, 0x4914b2b9, 0x172442d7, 0xda8a0600, 0xa96f30bc, 0x163138aa, 0xe38dee4d,
    0xb0fb0e4e]
  stir := Sm3.stir
  size := 32

end Digest

end ArtifactLens.Shell
