import ArtifactLens.Text.Digit

/-!
# UTF-8

A text is stored as octets. `scan` reads one scalar value from the front of a list of octets or
reports the maximal ill-formed subpart there: the longest stretch that some well-formed sequence
starts with, and one octet if there is none. Two readers are built on it: `decode` refuses the
first ill-formed subpart and says where it stands; `decodeLossy` writes one U+FFFD for each.
-/

namespace ArtifactLens

/-- Octets of a file or a stream. -/
abbrev Octets := List UInt8

namespace Utf8

/-- Why a stretch of octets is no text. -/
inductive Reason where
  /-- No sequence starts with this octet. -/
  | invalidStart
  /-- The octet after the stretch cannot continue it. -/
  | invalidContinuation
  /-- The octets end within a sequence. -/
  | unexpectedEnd
  deriving DecidableEq, Repr

/-- The wording of a reason. -/
def Reason.message : Reason → String
  | .invalidStart => "invalid start byte"
  | .invalidContinuation => "invalid continuation byte"
  | .unexpectedEnd => "unexpected end of data"

/-- The first ill-formed stretch of a list of octets. -/
structure Fault where
  /-- Index of the first octet of the stretch. -/
  start : Nat
  /-- The octets of the stretch. -/
  stretch : Octets
  reason : Reason
  deriving DecidableEq, Repr

/-- The wording of a decoding fault: a single octet is shown, of a longer stretch the range. -/
def Fault.message (fault : Fault) : String :=
  let place := match fault.stretch with
    | [octet] =>
      "byte 0x" ++ Digit.padLeft 2 '0' (Digit.hex octet.toNat) ++ " in position " ++
        toString fault.start
    | octets =>
      "bytes in position " ++ toString fault.start ++ "-" ++
        toString (fault.start + octets.length - 1)
  "'utf-8' codec can't decode " ++ place ++ ": " ++ fault.reason.message

/-- What stands at the front of a list of octets. -/
inductive Scan where
  /-- One character, and the number of octets it takes. -/
  | char (c : Char) (size : Nat)
  /-- A maximal ill-formed subpart of `size` octets. -/
  | ill (size : Nat) (reason : Reason)
  deriving DecidableEq, Repr

/-- The shape of a sequence by its first octet: the number of continuation octets, the payload
of the first octet, and the range allowed for the second. -/
def shape? (first : Nat) : Option (Nat × Nat × Nat × Nat) :=
  if 0xc2 ≤ first ∧ first ≤ 0xdf then some (1, first - 0xc0, 0x80, 0xbf)
  else if first = 0xe0 then some (2, 0, 0xa0, 0xbf)
  else if first = 0xed then some (2, 0xd, 0x80, 0x9f)
  else if 0xe1 ≤ first ∧ first ≤ 0xef then some (2, first - 0xe0, 0x80, 0xbf)
  else if first = 0xf0 then some (3, 0, 0x90, 0xbf)
  else if 0xf1 ≤ first ∧ first ≤ 0xf3 then some (3, first - 0xf0, 0x80, 0xbf)
  else if first = 0xf4 then some (3, 4, 0x80, 0x8f)
  else none

/-- Reads `need` continuation octets, the next of which lies in the given range; `taken` octets
of the sequence have been read, with the given payload. -/
def proceed (taken payload : Nat) : (need low high : Nat) → Octets → Scan
  | 0, _, _, _ => .char (Char.ofNat payload) taken
  | _ + 1, _, _, [] => .ill taken .unexpectedEnd
  | need + 1, low, high, octet :: rest =>
    if low ≤ octet.toNat ∧ octet.toNat ≤ high then
      proceed (taken + 1) (payload * 64 + (octet.toNat - 0x80)) need 0x80 0xbf rest
    else .ill taken .invalidContinuation

/-- What stands at the front of a non-empty list of octets. -/
def scan (first : UInt8) (rest : Octets) : Scan :=
  if first.toNat < 0x80 then .char (Char.ofNat first.toNat) 1
  else match shape? first.toNat with
    | none => .ill 1 .invalidStart
    | some (need, payload, low, high) => proceed 1 payload need low high rest

/-- Decodes octets as text, refusing the first ill-formed subpart; `position` is the index of the
next octet and `text` what has been read, in reverse. -/
def decodeFrom (position : Nat) (text : List Char) : Octets → Except Fault (List Char)
  | [] => .ok text.reverse
  | first :: rest =>
    match scan first rest with
    | .ill size reason => .error ⟨position, (first :: rest).take size, reason⟩
    | .char c size => decodeFrom (position + size) (c :: text) (rest.drop (size - 1))
  termination_by octets => octets.length
  decreasing_by simp only [List.length_cons, List.length_drop]; omega

/-- The text of octets that are UTF-8 throughout, or the first fault. -/
def decode (octets : Octets) : Except Fault (List Char) := decodeFrom 0 [] octets

/-- Decodes octets as text with one U+FFFD for each maximal ill-formed subpart; `text` is what has
been read, in reverse. -/
def decodeLossyFrom (text : List Char) : Octets → List Char
  | [] => text.reverse
  | first :: rest =>
    match scan first rest with
    | .ill size _ => decodeLossyFrom (Char.ofNat 0xfffd :: text) (rest.drop (size - 1))
    | .char c size => decodeLossyFrom (c :: text) (rest.drop (size - 1))
  termination_by octets => octets.length
  decreasing_by all_goals (simp only [List.length_cons, List.length_drop]; omega)

/-- The text of octets, one U+FFFD standing for each maximal ill-formed subpart. -/
def decodeLossy (octets : Octets) : List Char := decodeLossyFrom [] octets

/-- The octets of a text. -/
def encode (text : String) : Octets := text.toUTF8.toList

end Utf8

end ArtifactLens
