import Mathlib.Data.List.Basic
import Mathlib.Logic.Function.Basic
import Roster.Embedded.Operations
import Roster.Proofs.RecordRoundTrip

/-!
# A record is a line of text

The writer works on bytes and escapes only such as stand for ASCII characters, so what it writes is
the UTF-8 of some text again. It escapes all that are below the space, so that text is one line. With
the round trip this is what a table of records relies on: nothing that was stored is lost.
-/

namespace Roster

/-! ## Lines -/

/-- The bytes of a text of one line: well-formed, and none of them below the space. -/
structure IsLine (l : Bytes) : Prop where
  text : ∃ s, l = utf8 s
  printed : ∀ b ∈ l, 0x20 ≤ b

/-- The byte of an ASCII character that is not a control character. -/
def IsPrinted (b : UInt8) : Prop := 0x20 ≤ b ∧ b < 0x80

instance (b : UInt8) : Decidable (IsPrinted b) := inferInstanceAs (Decidable (_ ∧ _))

namespace IsLine

theorem nil : IsLine [] := ⟨⟨"", rfl⟩, by simp⟩

theorem append {k l : Bytes} (hk : IsLine k) (hl : IsLine l) : IsLine (k ++ l) := by
  obtain ⟨s, rfl⟩ := hk.text
  obtain ⟨t, rfl⟩ := hl.text
  refine ⟨⟨s ++ t, (utf8_append s t).symm⟩, fun b hb => ?_⟩
  rcases List.mem_append.1 hb with hb | hb
  · exact hk.printed b hb
  · exact hl.printed b hb

theorem cons {b : UInt8} {l : Bytes} (hb : IsPrinted b) (hl : IsLine l) : IsLine (b :: l) := by
  have hone : IsLine [b] := by
    refine ⟨⟨String.singleton (Char.ofUInt8 b), ?_⟩, ?_⟩
    · rw [utf8_singleton, utf8EncodeChar_ofUInt8 hb.2]
    · simpa using hb.1
  exact hone.append hl

theorem of_printed {l : Bytes} (h : ∀ b ∈ l, IsPrinted b) : IsLine l := by
  induction l with
  | nil => exact nil
  | cons b l ih => exact cons (h b List.mem_cons_self) (ih fun x hx => h x (List.mem_cons_of_mem _ hx))

theorem flatMap {α : Type} {f : α → Bytes} {l : List α} (h : ∀ a ∈ l, IsLine (f a)) :
    IsLine (l.flatMap f) := by
  induction l with
  | nil => exact nil
  | cons a l ih =>
    rw [List.flatMap_cons]
    exact (h a List.mem_cons_self).append (ih fun x hx => h x (List.mem_cons_of_mem _ hx))

end IsLine

namespace Record

/-! ## What the writer writes -/

theorem isPrinted_hexByte {n : UInt8} (h : n < 16) : IsPrinted (hexByte n) := by
  have hn : n.toNat < 16 := by simpa [UInt8.lt_iff_toNat_lt] using h
  have hall : ∀ n : Fin 16, IsPrinted (hexByte (UInt8.ofNat n)) := by decide
  simpa using hall ⟨n.toNat, hn⟩

/-- An ASCII byte, whether it needs an escape or not, is written as printed ones. -/
theorem isPrinted_of_mem_writeByte {b x : UInt8} (hb : b < 0x80) (hx : x ∈ writeByte b) : IsPrinted x := by
  unfold writeByte at hx
  -- seven bytes have an escape of two letters
  iterate 7
    split at hx
    · simp only [List.mem_cons, List.not_mem_nil, or_false] at hx
      rcases hx with rfl | rfl <;> decide
  split at hx
  · -- the other control characters have their number as an escape
    rename_i hc
    simp only [List.mem_cons, List.not_mem_nil, or_false] at hx
    have hhigh : b / 16 < 16 := by simp [UInt8.lt_iff_toNat_lt] at hb ⊢; omega
    have hlow : b % 16 < 16 := by simp [UInt8.lt_iff_toNat_lt]; omega
    rcases hx with rfl | rfl | rfl | rfl | rfl | rfl
    · decide
    · decide
    · decide
    · decide
    · exact isPrinted_hexByte hhigh
    · exact isPrinted_hexByte hlow
  · rename_i hc
    rw [List.mem_singleton] at hx
    subst hx
    exact ⟨by simpa [Sign.isControl] using hc, hb⟩

theorem writeByte_of_le {b : UInt8} (h : 0x80 ≤ b) : writeByte b = [b] := by
  have hne (x : UInt8) (hx : x < 0x80) : b ≠ x := by
    rintro rfl
    exact UInt8.not_lt.2 h hx
  have hc : Sign.isControl b = false := decide_eq_false (UInt8.not_lt.2 (UInt8.le_trans (by decide) h))
  simp [writeByte, hne, hne Sign.quote (by decide), hne Sign.backslash (by decide), hc]

/-- A character beyond ASCII is written as it is, and any other as printed bytes. -/
theorem isLine_writeChar (c : Char) : IsLine ((String.utf8EncodeChar c).flatMap writeByte) := by
  by_cases h : c.toNat < 0x80
  · have hb : UInt8.ofNat c.toNat < 0x80 := by
      rw [UInt8.lt_iff_toNat_lt, UInt8.toNat_ofNat']
      exact Nat.lt_of_le_of_lt (Nat.mod_le ..) h
    rw [utf8EncodeChar_ascii h, List.flatMap_singleton]
    exact .of_printed fun x => isPrinted_of_mem_writeByte hb
  · have hbytes : ∀ b ∈ String.utf8EncodeChar c, 0x80 ≤ b := fun b =>
      le_of_mem_utf8EncodeChar (Nat.le_of_not_lt h)
    have hsame : (String.utf8EncodeChar c).flatMap writeByte = String.utf8EncodeChar c := by
      rw [List.flatMap_congr fun b hb => writeByte_of_le (hbytes b hb)]
      exact List.flatMap_singleton' _
    rw [hsame]
    exact ⟨⟨String.singleton c, (utf8_singleton c).symm⟩,
      fun b hb => UInt8.le_trans (by decide) (hbytes b hb)⟩

theorem isLine_writeText (s : String) : IsLine (writeText s) := by
  have hchars : IsLine ((utf8 s).flatMap writeByte) := by
    rw [utf8_eq_flatMap, List.flatMap_assoc]
    exact .flatMap fun c _ => isLine_writeChar c
  exact .append (.cons (by decide) hchars) (.cons (by decide) .nil)

theorem isLine_joinParts {parts : List Bytes} (h : ∀ p ∈ parts, IsLine p) : IsLine (joinParts parts) := by
  cases parts with
  | nil => exact .nil
  | cons p parts =>
    rw [joinParts_cons]
    exact (h p List.mem_cons_self).append
      (.flatMap fun q hq => .cons (by decide) (h q (List.mem_cons_of_mem _ hq)))

theorem isLine_writeTexts (l : List String) : IsLine (writeTexts l) := by
  have hparts : IsLine (joinParts (l.map writeText)) := by
    refine isLine_joinParts fun p hp => ?_
    obtain ⟨s, -, rfl⟩ := List.mem_map.1 hp
    exact isLine_writeText s
  exact .append (.cons (by decide) hparts) (.cons (by decide) .nil)

theorem isLine_writeMember (key : String) {value : Bytes} (h : IsLine value) : IsLine (writeMember key value) :=
  (isLine_writeText key).append (.cons (by decide) h)

theorem isLine_encode (u : User) : IsLine (encode u) := by
  have hmembers : IsLine (joinParts [writeMember "email" (writeText u.email),
      writeMember "full_name" (writeText u.fullName), writeMember "roles" (writeTexts u.roles)]) := by
    refine isLine_joinParts fun p hp => ?_
    simp only [List.mem_cons, List.not_mem_nil, or_false] at hp
    rcases hp with rfl | rfl | rfl
    · exact isLine_writeMember _ (isLine_writeText _)
    · exact isLine_writeMember _ (isLine_writeText _)
    · exact isLine_writeMember _ (isLine_writeTexts _)
  exact .append (.cons (by decide) hmembers) (.cons (by decide) .nil)

theorem encode_injective : Function.Injective encode := by
  intro u v h
  have hu := decode_encode u
  rw [h, decode_encode] at hu
  cases hu
  rfl

end Record

namespace Embedded

/-- Every record survives storage: whatever the texts of a user are, and under whatever key its record is
kept, it reads back as that user. So no two users have the same record. And a record is well-formed UTF-8
without raw control characters. -/
theorem record_survives_storage :
    (∀ key u, Operation.decodeUser key (Record.encode u) = pure u) ∧
      Function.Injective Record.encode ∧
      ∀ u, (∃ text, Record.encode u = utf8 text) ∧ ∀ b ∈ Record.encode u, 0x20 ≤ b := by
  refine ⟨fun key u => ?_, Record.encode_injective, fun u => ?_⟩
  · rw [Operation.decodeUser, Record.decode_encode]
  · exact ⟨(Record.isLine_encode u).text, (Record.isLine_encode u).printed⟩

/-- Texts that need every kind of escape, for instance, and two lists of roles with the same letters. -/
theorem record_survives_storage_of_odd_texts :
    let u : User := ⟨"a\"\\\u0000\n", "é😀\x7f", ["b", "", "a\x1f", "b"]⟩
    let v : User := { u with roles := ["b", "a\x1fb"] }
    Operation.decodeUser "elsewhere" (Record.encode u) = pure u ∧
      Record.encode u ≠ Record.encode v ∧ ∀ b ∈ Record.encode u, 0x20 ≤ b := by
  obtain ⟨hread, hinj, hline⟩ := record_survives_storage
  exact ⟨hread _ _, fun h => absurd (hinj h) (by decide), (hline _).2⟩

end Embedded

end Roster
