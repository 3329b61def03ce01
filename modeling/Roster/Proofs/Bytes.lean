import Mathlib.Tactic.SplitIfs
import Roster.User

/-!
# Texts as bytes

The bytes of a text are the encodings of its characters in turn, and no two texts share theirs. An
ASCII character is its own byte, and the bytes of all others lie above these. So a byte zero stands
for the character NUL and for nothing else.
-/

namespace Roster

/-- Exactly the bytes of a text read back as that text. -/
theorem ofUtf8?_eq_some {b : Bytes} {s : String} : ofUtf8? b = some s ↔ b = utf8 s := by
  constructor
  · intro h
    rw [ofUtf8?, String.fromUTF8?] at h
    split at h
    · cases h
      rfl
    · cases h
  · rintro rfl
    exact ofUtf8?_utf8 s

theorem utf8_eq_flatMap (s : String) : utf8 s = s.toList.flatMap String.utf8EncodeChar := by
  rw [utf8, ← String.utf8Encode_toList, List.utf8Encode]
  simp

theorem utf8_append (s t : String) : utf8 (s ++ t) = utf8 s ++ utf8 t := by
  rw [utf8_eq_flatMap, utf8_eq_flatMap, utf8_eq_flatMap, String.toList_append, List.flatMap_append]

theorem utf8_singleton (c : Char) : utf8 (String.singleton c) = String.utf8EncodeChar c := by
  rw [utf8_eq_flatMap]
  simp

/-! ## Single characters -/

theorem utf8EncodeChar_ascii {c : Char} (h : c.toNat < 0x80) :
    String.utf8EncodeChar c = [UInt8.ofNat c.toNat] := by
  have hc : c.val.toNat ≤ 0x7f := by
    rw [Char.toNat_val]
    omega
  simp only [String.utf8EncodeChar, if_pos hc]
  rfl

/-- An ASCII byte is the encoding of the character of that number. -/
theorem utf8EncodeChar_ofUInt8 {b : UInt8} (h : b < 0x80) : String.utf8EncodeChar (Char.ofUInt8 b) = [b] := by
  have hb : (Char.ofUInt8 b).toNat = b.toNat := UInt8.toNat_toUInt32 b
  have hlt : b.toNat < 0x80 := by simpa [UInt8.lt_iff_toNat_lt] using h
  rw [utf8EncodeChar_ascii (by omega), hb, UInt8.ofNat_toNat]

/-- All bytes of a character beyond ASCII are beyond ASCII. -/
theorem le_of_mem_utf8EncodeChar {c : Char} (h : 0x80 ≤ c.toNat) {b : UInt8}
    (hb : b ∈ String.utf8EncodeChar c) : 0x80 ≤ b := by
  have hbyte (n : Nat) (hn : 0x80 ≤ n % 256) : 0x80 ≤ UInt8.ofNat n := by
    rw [UInt8.le_iff_toNat_le, UInt8.toNat_ofNat']
    exact hn
  simp only [String.utf8EncodeChar, Char.toNat_val] at hb
  -- by the length of the encoding, which is not one
  split_ifs at hb <;> simp only [List.mem_cons, List.not_mem_nil, or_false] at hb
  · omega
  · rcases hb with rfl | rfl <;> exact hbyte _ (by omega)
  · rcases hb with rfl | rfl | rfl <;> exact hbyte _ (by omega)
  · rcases hb with rfl | rfl | rfl | rfl <;> exact hbyte _ (by omega)

theorem zero_mem_utf8EncodeChar {c : Char} : 0 ∈ String.utf8EncodeChar c ↔ c.toNat = 0 := by
  have hbyte (n : Nat) : 0 = UInt8.ofNat n ↔ n % 256 = 0 := by
    rw [← UInt8.toNat_inj, UInt8.toNat_ofNat', eq_comm]
    rfl
  have hv : c.val.toNat = c.toNat := rfl
  simp only [String.utf8EncodeChar, hv]
  split_ifs <;> simp only [List.mem_cons, List.not_mem_nil, or_false, hbyte]
    <;> omega

theorem zero_mem_utf8 {s : String} : 0 ∈ utf8 s ↔ hasNul s = true := by
  simp [utf8_eq_flatMap, hasNul, zero_mem_utf8EncodeChar]

end Roster
