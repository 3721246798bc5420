import ArtifactLens.Shell.Digest.Sha2

/-!
# BLAKE2

The digest BLAKE2b of up to 512 bits. The octets are not followed by a length: the state is stirred
with how many octets came so far, and with whether a block is the last one.
-/

namespace ArtifactLens.Shell

namespace Digest

namespace Blake2

/-- In which order the words of a block go into the rounds. -/
def orders : Array (Array Nat) := #[
  #[0, 1, 2, 3, 4, 5, 6, 7, 8, 9, 10, 11, 12, 13, 14, 15],
  #[14, 10, 4, 8, 9, 15, 13, 6, 1, 12, 0, 2, 11, 7, 5, 3],
  #[11, 8, 12, 0, 5, 2, 15, 13, 10, 14, 3, 6, 7, 1, 9, 4],
  #[7, 9, 3, 1, 13, 12, 11, 14, 2, 6, 5, 10, 4, 0, 15, 8],
  #[9, 0, 5, 7, 2, 4, 10, 15, 14, 1, 11, 12, 6, 8, 3, 13],
  #[2, 12, 6, 10, 0, 11, 8, 3, 4, 13, 7, 5, 15, 14, 1, 9],
  #[12, 5, 1, 15, 14, 13, 4, 10, 0, 7, 6, 3, 9, 2, 8, 11],
  #[13, 11, 7, 14, 12, 1, 3, 9, 5, 0, 15, 4, 8, 6, 2, 10],
  #[6, 15, 14, 9, 11, 3, 0, 8, 12, 2, 13, 7, 1, 4, 10, 5],
  #[10, 2, 8, 4, 7, 6, 1, 5, 15, 11, 9, 14, 3, 12, 13, 0]]

/-- Mixes four words of a state with two words of a block. -/
def mix (state : Array UInt64) (a b c d : Nat) (x y : UInt64) : Array UInt64 :=
  let get (i : Nat) : UInt64 := state.getD i 0
  let p := get a + get b + x
  let s := turnRight (get d ^^^ p) 32
  let r := get c + s
  let q := turnRight (get b ^^^ r) 24
  let p := p + q + y
  let s := turnRight (s ^^^ p) 16
  let r := r + s
  let q := turnRight (q ^^^ r) 63
  (((state.setIfInBounds a p).setIfInBounds b q).setIfInBounds c r).setIfInBounds d s

/-- The words of a state that are mixed together in a round: columns, and then diagonals. -/
def lanes : List (Nat × Nat × Nat × Nat) :=
  [(0, 4, 8, 12), (1, 5, 9, 13), (2, 6, 10, 14), (3, 7, 11, 15),
    (0, 5, 10, 15), (1, 6, 11, 12), (2, 7, 8, 13), (3, 4, 9, 14)]

/-- The state that a block leads to; `count` octets came so far. -/
def stir (state block : Array UInt64) (count : Nat) (isLast : Bool) : Array UInt64 :=
  let marks : Array UInt64 := #[0, 0, 0, 0, count.toUInt64, (count / 2 ^ 64).toUInt64,
    if isLast then 0xffffffffffffffff else 0, 0]
  let work := state ++ (Array.zipWith (· ^^^ ·) Sha2.start64 marks)
  let word (round i : Nat) : UInt64 := block.getD ((orders.getD (round % 10) #[]).getD i 0) 0
  let work := (List.range 12).foldl (fun work round =>
    (lanes.zipIdx).foldl (fun work ((a, b, c, d), i) =>
      mix work a b c d (word round (2 * i)) (word round (2 * i + 1))) work) work
  ((List.range 8).map fun i =>
    state.getD i 0 ^^^ work.getD i 0 ^^^ work.getD (i + 8) 0).toArray

end Blake2

/-- The digest BLAKE2b of so many octets. -/
def blake2b (size : Nat) (data : ByteArray) : List UInt8 :=
  let start := Sha2.start64.modify 0 fun word => word ^^^ 0x01010000 ^^^ size.toUInt64
  let blocks := max 1 ((data.size + 127) / 128)
  let blockAt (i : Nat) : Array UInt64 :=
    ((List.range 16).map fun j =>
      (valueOf false ((List.range 8).map fun k =>
        octetAt data (128 * i + 8 * j + k))).toUInt64).toArray
  let state := (List.range blocks).foldl (fun state i =>
    Blake2.stir state (blockAt i) (min data.size (128 * (i + 1))) (i + 1 == blocks)) start
  (state.toList.flatMap fun word => littleEndian 8 word.toNat).take size

end Digest

end ArtifactLens.Shell
