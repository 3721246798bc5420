import ArtifactLens.Text.Lines
import ArtifactLens.Text.Utf8
import Mathlib.Tactic.SplitIfs

/-!
# Texts and their octets

**What decodes is the encoding of its text** (`Utf8.encode_of_decode`): no octets are lost in
reading, and no two lists of octets are read as one text. It rests on one character at a time
(`Utf8.scan_eq_char`): the octets that are taken for a character are those that the character is
written with, because the range of the second octet leaves out the sequences that are too long for
their code point and those of no code point.

Octets without a carriage return have a text without one (`Utf8.carriageReturn_of_decode`), whose
ends of lines are newlines already (`Lines.normalize_eq`).
-/

namespace ArtifactLens

namespace Utf8

/-! ### Encoding -/

private theorem loop_eq (octets : ByteArray) (index : Nat) (done : Octets) :
    ByteArray.toList.loop octets index done = done.reverse ++ octets.data.toList.drop index := by
  fun_induction ByteArray.toList.loop octets index done with
  | case1 index done inside ih =>
    have within : index < octets.data.toList.length := by simpa using inside
    rw [ih, List.drop_eq_getElem_cons within]
    simp [ByteArray.get!, inside]
  | case2 index done outside =>
    rw [List.drop_eq_nil_of_le (by simpa using Nat.le_of_not_lt outside), List.append_nil]

/-- A text is encoded character by character. -/
theorem encode_ofList (text : List Char) :
    encode (String.ofList text) = text.flatMap String.utf8EncodeChar := by
  have bytes : (String.ofList text).toUTF8 = (text.flatMap String.utf8EncodeChar).toByteArray := rfl
  rw [encode, bytes, ByteArray.toList, loop_eq, List.reverse_nil, List.nil_append, List.drop_zero,
    List.toList_data_toByteArray]

private theorem toNat_val_ofNat {code : Nat} (valid : code.isValidChar) :
    (Char.ofNat code).val.toNat = code := by
  rw [Char.ofNat, dif_pos valid]
  rfl

private theorem ofNat_eq (octet : UInt8) {code : Nat} (h : code = octet.toNat) :
    UInt8.ofNat code = octet := by rw [h, UInt8.ofNat_toNat]

private theorem utf8EncodeChar_one {a : UInt8} (first : a.toNat < 0x80) :
    String.utf8EncodeChar (Char.ofNat a.toNat) = [a] := by
  rw [String.utf8EncodeChar, toNat_val_ofNat (.inl (by omega)), if_pos (by omega), ofNat_eq a rfl]

private theorem utf8EncodeChar_two {a b : UInt8} {payload : Nat} (first : a.toNat = 0xc0 + payload)
    (least : 2 ≤ payload) (most : payload < 0x20) (hb : 0x80 ≤ b.toNat ∧ b.toNat ≤ 0xbf) :
    String.utf8EncodeChar (Char.ofNat (payload * 64 + (b.toNat - 0x80))) = [a, b] := by
  -- `least` puts the code point above those that one octet spells
  rw [String.utf8EncodeChar, toNat_val_ofNat (.inl (by omega)), if_neg (by omega),
    if_pos (by omega), ofNat_eq a (by omega), ofNat_eq b (by omega)]

private theorem utf8EncodeChar_three {a b c : UInt8} {payload : Nat}
    (first : a.toNat = 0xe0 + payload) (most : payload < 0x10)
    (hb : 0x80 ≤ b.toNat ∧ b.toNat ≤ 0xbf) (hc : 0x80 ≤ c.toNat ∧ c.toNat ≤ 0xbf)
    (long : payload = 0 → 0xa0 ≤ b.toNat) (surrogate : payload = 0xd → b.toNat ≤ 0x9f) :
    String.utf8EncodeChar
        (Char.ofNat ((payload * 64 + (b.toNat - 0x80)) * 64 + (c.toNat - 0x80))) = [a, b, c] := by
  have valid : ((payload * 64 + (b.toNat - 0x80)) * 64 + (c.toNat - 0x80)).isValidChar := by
    rw [Nat.isValidChar]
    omega
  rw [String.utf8EncodeChar, toNat_val_ofNat valid, if_neg (by omega), if_neg (by omega),
    if_pos (by omega), ofNat_eq a (by omega), ofNat_eq b (by omega), ofNat_eq c (by omega)]

private theorem utf8EncodeChar_four {a b c d : UInt8} {payload : Nat}
    (first : a.toNat = 0xf0 + payload) (most : payload ≤ 4)
    (hb : 0x80 ≤ b.toNat ∧ b.toNat ≤ 0xbf) (hc : 0x80 ≤ c.toNat ∧ c.toNat ≤ 0xbf)
    (hd : 0x80 ≤ d.toNat ∧ d.toNat ≤ 0xbf)
    (long : payload = 0 → 0x90 ≤ b.toNat) (beyond : payload = 4 → b.toNat ≤ 0x8f) :
    String.utf8EncodeChar (Char.ofNat
        (((payload * 64 + (b.toNat - 0x80)) * 64 + (c.toNat - 0x80)) * 64 + (d.toNat - 0x80))) =
      [a, b, c, d] := by
  have valid : (((payload * 64 + (b.toNat - 0x80)) * 64 + (c.toNat - 0x80)) * 64 +
      (d.toNat - 0x80)).isValidChar := by
    rw [Nat.isValidChar]
    omega
  rw [String.utf8EncodeChar, toNat_val_ofNat valid, if_neg (by omega), if_neg (by omega),
    if_neg (by omega), ofNat_eq a (by omega), ofNat_eq b (by omega), ofNat_eq c (by omega),
    ofNat_eq d (by omega)]

/-! ### Reading back -/

section

variable {first taken payload need low high size : Nat} {c : Char} {rest : Octets}

/-- What a first octet promises: two octets, three without the overlong ones and the surrogates, or
four without the overlong ones and those beyond the last code point. -/
private theorem shape?_eq_some (h : shape? first = some (need, payload, low, high)) :
    (0x80 ≤ low ∧ high ≤ 0xbf) ∧
      (need = 1 ∧ first = 0xc0 + payload ∧ 2 ≤ payload ∧ payload < 0x20 ∨
        need = 2 ∧ first = 0xe0 + payload ∧ payload < 0x10 ∧
          (payload = 0 → low = 0xa0) ∧ (payload = 0xd → high = 0x9f) ∨
        need = 3 ∧ first = 0xf0 + payload ∧ payload ≤ 4 ∧
          (payload = 0 → low = 0x90) ∧ (payload = 4 → high = 0x8f)) := by
  unfold shape? at h
  split_ifs at h <;>
    · simp only [Option.some.injEq, Prod.mk.injEq] at h
      omega

private theorem proceed_succ_eq_char
    (h : proceed taken payload (need + 1) low high rest = .char c size) :
    ∃ octet tail, rest = octet :: tail ∧ (low ≤ octet.toNat ∧ octet.toNat ≤ high) ∧
      proceed (taken + 1) (payload * 64 + (octet.toNat - 0x80)) need 0x80 0xbf tail =
        .char c size := by
  cases rest with
  | nil => cases h
  | cons octet tail =>
    rw [proceed] at h
    split_ifs at h with range
    exact ⟨octet, tail, rfl, range, h⟩

private theorem proceed_zero_eq_char (h : proceed taken payload 0 low high rest = .char c size) :
    Char.ofNat payload = c ∧ taken = size := by
  rwa [proceed, Scan.char.injEq] at h

/-- The octets that are taken for a character are those that it is written with. -/
theorem scan_eq_char {first : UInt8} (h : scan first rest = .char c size) :
    first :: rest = String.utf8EncodeChar c ++ rest.drop (size - 1) := by
  unfold scan at h
  split_ifs at h with ascii
  · obtain ⟨rfl, rfl⟩ := Scan.char.inj h
    rw [utf8EncodeChar_one ascii]
    rfl
  split at h
  · cases h
  · rename_i need payload low high shape
    -- by the number of octets that the first one promises
    obtain ⟨within, ⟨rfl, lead, least, most⟩ | ⟨rfl, lead, most, long, surrogate⟩ |
      ⟨rfl, lead, most, long, beyond⟩⟩ := shape?_eq_some shape
    · obtain ⟨b, tail, rfl, hb, h⟩ := proceed_succ_eq_char h
      obtain ⟨rfl, rfl⟩ := proceed_zero_eq_char h
      rw [utf8EncodeChar_two lead least most (by omega)]
      rfl
    · obtain ⟨b, tail, rfl, hb, h⟩ := proceed_succ_eq_char h
      obtain ⟨c', tail, rfl, hc, h⟩ := proceed_succ_eq_char h
      obtain ⟨rfl, rfl⟩ := proceed_zero_eq_char h
      rw [utf8EncodeChar_three lead most (by omega) hc (by omega) (by omega)]
      rfl
    · obtain ⟨b, tail, rfl, hb, h⟩ := proceed_succ_eq_char h
      obtain ⟨c', tail, rfl, hc, h⟩ := proceed_succ_eq_char h
      obtain ⟨d, tail, rfl, hd, h⟩ := proceed_succ_eq_char h
      obtain ⟨rfl, rfl⟩ := proceed_zero_eq_char h
      rw [utf8EncodeChar_four lead most (by omega) hc hd (by omega) (by omega)]
      rfl

end

private theorem decodeFrom_eq_ok {position : Nat} {done text : List Char} {octets : Octets}
    (h : decodeFrom position done octets = .ok text) :
    ∃ read, text = done.reverse ++ read ∧ octets = read.flatMap String.utf8EncodeChar := by
  fun_induction decodeFrom position done octets with
  | case1 position done =>
    obtain rfl := Except.ok.inj h
    exact ⟨[], (List.append_nil _).symm, rfl⟩
  | case2 position done first rest size reason ill => cases h
  | case3 position done first rest c size char ih =>
    obtain ⟨read, rfl, tail⟩ := ih h
    refine ⟨c :: read, by simp, ?_⟩
    rw [scan_eq_char char, tail, List.flatMap_cons]

/-- The octets are the encoding of a text. -/
def IsText (octets : Octets) : Prop := ∃ text, decode octets = .ok text

/-- **What decodes is the encoding of its text.** -/
theorem encode_of_decode {octets : Octets} {text : List Char} (h : decode octets = .ok text) :
    encode (String.ofList text) = octets := by
  obtain ⟨_, rfl, rfl⟩ := decodeFrom_eq_ok h
  exact encode_ofList _

/-- Octets without a carriage return have a text without one. -/
theorem carriageReturn_of_decode {octets : Octets} {text : List Char}
    (h : decode octets = .ok text) (free : 0x0d ∉ octets) : '\r' ∉ text := by
  intro mem
  rw [← encode_of_decode h, encode_ofList] at free
  exact free (List.mem_flatMap.mpr ⟨'\r', mem, by decide⟩)

/-! ### ASCII -/

end Utf8

/-! ### Ends of lines -/

namespace Lines

private theorem normalizeFrom_eq {text : List Char} (h : '\r' ∉ text) (done : List Char) :
    normalizeFrom done text = done.reverse ++ text := by
  induction text generalizing done with
  | nil => rw [normalizeFrom, List.append_nil]
  | cons c rest ih =>
    have hc : c ≠ '\r' := fun same => h (same ▸ List.mem_cons_self)
    have step : normalizeFrom done (c :: rest) = normalizeFrom (c :: done) rest := by
      rw [normalizeFrom, if_neg hc]
      exact fun _ same => absurd same hc
    rw [step, ih fun hmem => h (List.mem_cons_of_mem c hmem)]
    simp

/-- A text without carriage returns stays as it is. -/
theorem normalize_eq {text : List Char} (h : '\r' ∉ text) : normalize text = text :=
  normalizeFrom_eq h []

end Lines

end ArtifactLens
