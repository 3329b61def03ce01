/-!
# Bytes and texts

Keys and stored records are byte strings; emails, names and roles are texts. The two meet in UTF-8,
and every order that the library shows is the order of the bytes: unsigned, position by position,
a shorter string before its extensions.
-/

namespace Roster

/-- A byte string. -/
abbrev Bytes := List UInt8

/-- The UTF-8 bytes of a text. -/
def utf8 (s : String) : Bytes := s.toByteArray.data.toList

/-- The text with these UTF-8 bytes, if they are well-formed. -/
def ofUtf8? (b : Bytes) : Option String := String.fromUTF8? ⟨b.toArray⟩

/-- The number of bytes of a text. -/
def byteLength (s : String) : Nat := s.utf8ByteSize

theorem utf8_injective {s t : String} (h : utf8 s = utf8 t) : s = t := by
  apply String.toByteArray_inj.1
  have h' : s.toByteArray.data = t.toByteArray.data := Array.toList_inj.1 h
  cases hs : s.toByteArray
  cases ht : t.toByteArray
  simp_all

theorem ofUtf8?_utf8 (s : String) : ofUtf8? (utf8 s) = some s := by
  have h : (⟨(utf8 s).toArray⟩ : ByteArray) = s.toByteArray := by simp [utf8]
  rw [ofUtf8?, h, String.fromUTF8?, dif_pos s.isValidUTF8]
  rfl

/-- How many bytes stand before the first that is not part of well-formed UTF-8. -/
def wellFormedLength (b : Bytes) : Nat :=
  if b.isEmpty then 0
  else
    match (⟨(b.take 4).toArray⟩ : ByteArray).utf8DecodeChar? 0 with
    | none => 0
    | some c => c.utf8Size + wellFormedLength (b.drop c.utf8Size)
termination_by b.length
decreasing_by
  have := c.utf8Size_pos
  cases b <;> simp_all
  omega

/-- Byte order on texts, ties included. -/
def textLE (s t : String) : Bool := utf8 s ≤ utf8 t

/-- Texts in ascending byte order. -/
def sortTexts (l : List String) : List String := l.mergeSort textLE

/-- The hexadecimal digits of a number, lower case, without padding. -/
def hexDigits (n : Nat) : String := String.ofList (Nat.toDigits 16 n)

/-- The value of a hexadecimal digit of either case. -/
def hexValue? (b : UInt8) : Option Nat :=
  if 0x30 ≤ b ∧ b ≤ 0x39 then some (b.toNat - 0x30)
  else if 0x41 ≤ b ∧ b ≤ 0x46 then some (b.toNat - 0x37)
  else if 0x61 ≤ b ∧ b ≤ 0x66 then some (b.toNat - 0x57)
  else none

end Roster
