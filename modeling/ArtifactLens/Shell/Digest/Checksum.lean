import ArtifactLens.Shell.Digest.Blocks

/-!
# Checksums

Short numbers that tell damaged texts apart: the cyclic redundancy check of 32 bits over the octets of a
text and of its length, and two sums of octets.
-/

namespace ArtifactLens.Shell

namespace Digest

namespace Checksum

/-- What an octet at the top of the remainder adds to it. -/
def table : Array UInt32 :=
  ((List.range 256).map fun octet =>
    (List.range 8).foldl (fun (remainder : UInt32) _ =>
      if remainder ≥ 0x80000000 then (remainder <<< 1) ^^^ 0x04c11db7 else remainder <<< 1)
      ((UInt32.ofNat octet) <<< (24 : UInt32))).toArray

/-- The remainder after another octet. -/
def divide (remainder : UInt32) (octet : UInt8) : UInt32 :=
  (remainder <<< 8) ^^^ table.getD ((remainder >>> 24).toNat ^^^ octet.toNat) 0

/-- The octets of a length without zeros at its end, the least significant one first. -/
def lengthOctets (length : Nat) : List UInt8 :=
  (littleEndian 8 length).take (if length = 0 then 0 else length.log2 / 8 + 1)

/-- The cyclic redundancy check of octets. -/
def cyclic (data : ByteArray) : Nat :=
  let remainder := data.foldl divide 0
  (~~~((lengthOctets data.size).foldl divide remainder)).toNat

/-- The sum of octets in 16 bits that are turned to the right by a bit before each of them. -/
def turning (data : ByteArray) : Nat :=
  data.foldl (fun sum octet => (sum / 2 + sum % 2 * 32768 + octet.toNat) % 65536) 0

/-- The sum of octets, folded into 16 bits. -/
def folded (data : ByteArray) : Nat :=
  let sum := data.foldl (fun sum octet => (sum + octet.toNat) % 2 ^ 32) 0
  let once := sum % 65536 + sum / 65536
  once % 65536 + once / 65536

end Checksum

end Digest

end ArtifactLens.Shell
