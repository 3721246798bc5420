import ArtifactLens.Shell.Digest.Blocks

/-!
# SHA-2

The digests of 224, 256, 384 and 512 bits. Their constants are the leading bits of what follows the
point in the square and cube roots of the first primes, which are calculated here.
-/

namespace ArtifactLens.Shell

namespace Digest

namespace Sha2

/-- The first eighty primes. -/
def primes : List Nat :=
  (List.range 410).filter fun n =>
    2 ≤ n && (List.range n).all fun d => d < 2 || n % d != 0

/-- The greatest number of so many bits whose power is not above a number. -/
def root (power bits n : Nat) : Nat :=
  (List.range bits).foldr (fun i found =>
    let next := found + 2 ^ i
    if next ^ power ≤ n then next else found) 0

/-- The first bits after the point in the roots of primes. -/
def roots (power bits : Nat) (primes : List Nat) : Array Nat :=
  (primes.map fun p => root power (bits + 5) (p * 2 ^ (power * bits)) % 2 ^ bits).toArray

/-- The constants of the steps on words of 32 bits. -/
def constants32 : Array UInt32 := (roots 3 32 (primes.take 64)).map Nat.toUInt32

/-- The constants of the steps on words of 64 bits. -/
def constants64 : Array UInt64 := (roots 3 64 primes).map Nat.toUInt64

/-- The start on words of 64 bits: the square roots of the first primes. -/
def start64 : Array UInt64 := (roots 2 64 (primes.take 8)).map Nat.toUInt64

/-- The start of the shorter digest on words of 64 bits: the square roots of the next primes. -/
def start48 : Array UInt64 := (roots 2 64 ((primes.drop 8).take 8)).map Nat.toUInt64

/-- The words that go into the steps: those of the block, and each further one from earlier ones. -/
def schedule {Word : Type} [Add Word] (zero : Word) (steps : Nat) (near far : Word → Word)
    (block : Array Word) : Array Word :=
  (List.range (steps - 16)).foldl (fun words i =>
    let word (back : Nat) : Word := words.getD (16 + i - back) zero
    words.push (far (word 2) + word 7 + near (word 15) + word 16)) block

/-- How words are mixed on the way to the next state: the first choice, the majority, and the turned
words. -/
structure Mixing (Word : Type) where
  choose : Word → Word → Word → Word
  most : Word → Word → Word → Word
  first : Word → Word
  second : Word → Word

/-- The state that a block leads to, given the words that go into the steps. -/
def stir {Word : Type} [Add Word] (zero : Word) (mixing : Mixing Word)
    (constants words state : Array Word) : Array Word :=
  let word (i : Nat) : Word := state.getD i zero
  let (a, b, c, d, e, f, g, h) :=
    (List.range words.size).foldl (fun (a, b, c, d, e, f, g, h) step =>
      let one := h + mixing.second e + mixing.choose e f g + constants.getD step zero +
        words.getD step zero
      let two := mixing.first a + mixing.most a b c
      (one + two, a, b, c, d + one, e, f, g))
      (word 0, word 1, word 2, word 3, word 4, word 5, word 6, word 7)
  #[word 0 + a, word 1 + b, word 2 + c, word 3 + d, word 4 + e, word 5 + f, word 6 + g, word 7 + h]

/-- A word of 32 bits, turned to the right. -/
def turn (word count : UInt32) : UInt32 := turnLeft word (32 - count)

/-- The mixing of words of 32 bits. -/
def mixing32 : Mixing UInt32 where
  choose := fun e f g => (e &&& f) ^^^ (~~~e &&& g)
  most := fun a b c => (a &&& b) ^^^ (a &&& c) ^^^ (b &&& c)
  first := fun a => turn a 2 ^^^ turn a 13 ^^^ turn a 22
  second := fun e => turn e 6 ^^^ turn e 11 ^^^ turn e 25

/-- The mixing of words of 64 bits. -/
def mixing64 : Mixing UInt64 where
  choose := fun e f g => (e &&& f) ^^^ (~~~e &&& g)
  most := fun a b c => (a &&& b) ^^^ (a &&& c) ^^^ (b &&& c)
  first := fun a => turnRight a 28 ^^^ turnRight a 34 ^^^ turnRight a 39
  second := fun e => turnRight e 14 ^^^ turnRight e 18 ^^^ turnRight e 41

/-- The state that a block of words of 32 bits leads to. -/
def stir32 (state block : Array UInt32) : Array UInt32 :=
  let near (x : UInt32) : UInt32 := turn x 7 ^^^ turn x 18 ^^^ (x >>> 3)
  let far (x : UInt32) : UInt32 := turn x 17 ^^^ turn x 19 ^^^ (x >>> 10)
  stir 0 mixing32 constants32 (schedule 0 64 near far block) state

/-- The state that a block of words of 64 bits leads to. -/
def stir64 (state block : Array UInt64) : Array UInt64 :=
  let near (x : UInt64) : UInt64 := turnRight x 1 ^^^ turnRight x 8 ^^^ (x >>> 7)
  let far (x : UInt64) : UInt64 := turnRight x 19 ^^^ turnRight x 61 ^^^ (x >>> 6)
  stir 0 mixing64 constants64 (schedule 0 80 near far block) state

/-- A digest on words of 32 bits. -/
def on32 (start : Array UInt32) (size : Nat) : Blocks UInt32 where
  wordSize := 4
  isBigEndian := true
  ofNat := Nat.toUInt32
  toNat := UInt32.toNat
  start
  stir := stir32
  size

/-- A digest on words of 64 bits. -/
def on64 (start : Array UInt64) (size : Nat) : Blocks UInt64 where
  wordSize := 8
  isBigEndian := true
  ofNat := Nat.toUInt64
  toNat := UInt64.toNat
  start
  stir := stir64
  size

end Sha2

/-- The digest SHA-256. -/
def sha256 : Blocks UInt32 :=
  Sha2.on32 ((Sha2.roots 2 32 (Sha2.primes.take 8)).map Nat.toUInt32) 32

/-- The digest SHA-224, which starts from the other halves of the roots that SHA-384 starts from. -/
def sha224 : Blocks UInt32 := Sha2.on32 (Sha2.start48.map UInt64.toUInt32) 28

/-- The digest SHA-512. -/
def sha512 : Blocks UInt64 := Sha2.on64 Sha2.start64 64

/-- The digest SHA-384. -/
def sha384 : Blocks UInt64 := Sha2.on64 Sha2.start48 48

end Digest

end ArtifactLens.Shell
