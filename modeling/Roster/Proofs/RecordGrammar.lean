import Roster.Proofs.RecordText

/-!
# The grammar of records

What a text of objects, lists, strings, numbers and words says, apart from how it is read. `Spells` holds of a
value and every text of it: with space between the parts wherever it may stand, and with each character of a
string as itself or as any of its escapes. The readers of strings are shown here to read every spelling.
-/

namespace Roster.Record

/-! ## Values -/

/-- A value. Of a number only the form is known, and so of a string that need not stand for a text. -/
inductive Json where
  | null
  | boolean (b : Bool)
  | number
  | text (s : String)
  | string
  | list (items : List Json)
  | object (members : List (String × Json))

/-- The value is a string. -/
def Json.IsString : Json → Prop
  | .text _ => True
  | .string => True
  | _ => False

/-- The value is a list. -/
def Json.IsList : Json → Prop
  | .list _ => True
  | _ => False

/-! ## Strings -/

/-- A hexadecimal digit of either case. -/
def Hex (b : UInt8) (n : Nat) : Prop :=
  n < 16 ∧ (b.toNat = (Nat.digitChar n).toNat ∨ b.toNat = (Nat.digitChar n).toUpper.toNat)

instance (b : UInt8) (n : Nat) : Decidable (Hex b n) := inferInstanceAs (Decidable (_ ∧ _))

/-- A number in four hexadecimal digits. -/
inductive FourHex : Bytes → Nat → Prop where
  | digits {a b c d : UInt8} {k l m n : Nat} : Hex a k → Hex b l → Hex c m → Hex d n →
      FourHex [a, b, c, d] (((k * 16 + l) * 16 + m) * 16 + n)

/-- The letters of short escapes, with the characters for which they stand. -/
def shortEscapes : List (UInt8 × Char) :=
  [(0x22, '"'), (0x5C, '\\'), (0x2F, '/'), (0x62, '\x08'), (0x66, '\x0C'), (0x6E, '\n'), (0x72, '\r'),
    (0x74, '\t')]

/-- The character may stand for itself. -/
def IsPlain (c : Char) : Prop := 0x20 ≤ c.toNat ∧ c ≠ '"' ∧ c ≠ '\\'

instance (c : Char) : Decidable (IsPlain c) := inferInstanceAs (Decidable (_ ∧ _))

/-- The characters of a string, each as it is spelled between the quotes. -/
inductive SpellsChars : Bytes → List Char → Prop where
  | nil : SpellsChars [] []
  | plain {c : Char} {s : Bytes} {cs : List Char} : IsPlain c → SpellsChars s cs →
      SpellsChars (String.utf8EncodeChar c ++ s) (c :: cs)
  | short {x : UInt8} {c : Char} {s : Bytes} {cs : List Char} : (x, c) ∈ shortEscapes → SpellsChars s cs →
      SpellsChars (Sign.backslash :: x :: s) (c :: cs)
  | numbered {d : Bytes} {c : Char} {s : Bytes} {cs : List Char} : FourHex d c.toNat → SpellsChars s cs →
      SpellsChars (Sign.backslash :: Sign.letterU :: (d ++ s)) (c :: cs)
  /-- A character beyond the reach of four digits, as the numbers of a surrogate pair. -/
  | pair {d d' : Bytes} {high low : Nat} {c : Char} {s : Bytes} {cs : List Char} :
      high < 0x400 → low < 0x400 → FourHex d (0xD800 + high) → FourHex d' (0xDC00 + low) →
      c.toNat = 0x10000 + high * 0x400 + low → SpellsChars s cs →
      SpellsChars (Sign.backslash :: Sign.letterU :: (d ++ Sign.backslash :: Sign.letterU :: (d' ++ s))) (c :: cs)

/-- What may stand between the quotes of a string at all, be it a text or not. -/
inductive StringBody : Bytes → Prop where
  | nil : StringBody []
  | byte {b : UInt8} {s : Bytes} : b ≠ Sign.quote → b ≠ Sign.backslash → Sign.isControl b = false →
      StringBody s → StringBody (b :: s)
  | short {x : UInt8} {c : Char} {s : Bytes} : (x, c) ∈ shortEscapes → StringBody s →
      StringBody (Sign.backslash :: x :: s)
  | numbered {d : Bytes} {n : Nat} {s : Bytes} : FourHex d n → StringBody s →
      StringBody (Sign.backslash :: Sign.letterU :: (d ++ s))

/-- Between quotes. -/
def inQuotes (s : Bytes) : Bytes := Sign.quote :: (s ++ [Sign.quote])

/-! ## Numbers -/

/-- Any number of digits. -/
def AreDigits (s : Bytes) : Prop := ∀ b ∈ s, Sign.isDigit b = true

instance (s : Bytes) : Decidable (AreDigits s) := List.decidableBAll (fun b => Sign.isDigit b = true) s

/-- The whole part of a number: no zero stands in front of other digits. -/
inductive Whole : Bytes → Prop where
  | zero : Whole [Sign.zero]
  | digits {b : UInt8} {s : Bytes} : Sign.isDigit b = true → b ≠ Sign.zero → AreDigits s → Whole (b :: s)

/-- A point with digits behind it, or nothing. -/
inductive Fraction : Bytes → Prop where
  | none : Fraction []
  | digits {s : Bytes} : s ≠ [] → AreDigits s → Fraction (Sign.point :: s)

/-- The letter of an exponent with digits behind it, perhaps after a sign, or nothing. -/
inductive Exponent : Bytes → Prop where
  | none : Exponent []
  | digits {e : UInt8} {sign s : Bytes} : e = Sign.letterE ∨ e = Sign.capitalE →
      sign = [] ∨ sign = [Sign.plus] ∨ sign = [Sign.minus] → s ≠ [] → AreDigits s → Exponent (e :: (sign ++ s))

/-- A number. -/
inductive Numeral : Bytes → Prop where
  | parts {sign whole fraction exponent : Bytes} : sign = [] ∨ sign = [Sign.minus] → Whole whole →
      Fraction fraction → Exponent exponent → Numeral (sign ++ (whole ++ (fraction ++ exponent)))

/-! ## Texts of values -/

/-- Space, as much as one likes. -/
def IsBlank (s : Bytes) : Prop := ∀ b ∈ s, Sign.isSpace b = true

instance (s : Bytes) : Decidable (IsBlank s) := List.decidableBAll (fun b => Sign.isSpace b = true) s

theorem isBlank_nil : IsBlank [] := fun _ h => absurd h List.not_mem_nil

/-- What stands before an item: space, and a comma unless it is the first. -/
inductive Separator : Bool → Bytes → Prop where
  | first {w : Bytes} : IsBlank w → Separator true w
  | comma {w w' : Bytes} : IsBlank w → IsBlank w' → Separator false (w ++ Sign.comma :: w')

/-- A part of a text: a value, or what stands between the brackets of a list or an object. Of the latter two the
first item may still be to come, or there has been one. -/
inductive Part where
  | value (v : Json)
  | items (first : Bool) (l : List Json)
  | members (first : Bool) (l : List (String × Json))

/-- The part has this text. -/
inductive Spells : Part → Bytes → Prop where
  | null : Spells (.value .null) (utf8 "null")
  | yes : Spells (.value (.boolean true)) (utf8 "true")
  | no : Spells (.value (.boolean false)) (utf8 "false")
  | number {s : Bytes} : Numeral s → Spells (.value .number) s
  | text {s : Bytes} {t : String} : SpellsChars s t.toList → Spells (.value (.text t)) (inQuotes s)
  | string {s : Bytes} : StringBody s → Spells (.value .string) (inQuotes s)
  | list {s : Bytes} {l : List Json} : Spells (.items true l) s →
      Spells (.value (.list l)) (Sign.listOpen :: (s ++ [Sign.listClose]))
  | object {s : Bytes} {l : List (String × Json)} : Spells (.members true l) s →
      Spells (.value (.object l)) (Sign.objectOpen :: (s ++ [Sign.objectClose]))
  | noItem {first : Bool} {w : Bytes} : IsBlank w → Spells (.items first []) w
  | item {first : Bool} {w s s' : Bytes} {v : Json} {l : List Json} : Separator first w → Spells (.value v) s →
      Spells (.items false l) s' → Spells (.items first (v :: l)) (w ++ (s ++ s'))
  | noMember {first : Bool} {w : Bytes} : IsBlank w → Spells (.members first []) w
  | member {first : Bool} {w k w' w'' s s' : Bytes} {key : String} {v : Json} {l : List (String × Json)} :
      Separator first w → SpellsChars k key.toList → IsBlank w' → IsBlank w'' → Spells (.value v) s →
      Spells (.members false l) s' →
      Spells (.members first ((key, v) :: l)) (w ++ (inQuotes k ++ (w' ++ Sign.colon :: (w'' ++ (s ++ s')))))

/-- A text of plain characters may stand as it is. -/
theorem spellsChars_plain {t : String} (h : t.toList.all (IsPlain ·) = true) : SpellsChars (utf8 t) t.toList := by
  rw [utf8_eq_flatMap]
  generalize t.toList = cs at h
  induction cs with
  | nil => exact .nil
  | cons c cs ih =>
    rw [List.all_cons, Bool.and_eq_true] at h
    rw [List.flatMap_cons]
    exact .plain (of_decide_eq_true h.1) (ih h.2)

/-! ## Reading strings -/

variable {s d rest : Bytes} {x : UInt8} {c : Char} {cs : List Char} {n : Nat}

theorem hexValue?_of_hex (h : Hex x n) : hexValue? x = some n := by
  obtain ⟨hn, hx⟩ := h
  have hall : ∀ n : Fin 16, hexValue? (UInt8.ofNat (Nat.digitChar n).toNat) = some n.val ∧
      hexValue? (UInt8.ofNat (Nat.digitChar n).toUpper.toNat) = some n.val := by decide
  have hdigit := hall ⟨n, hn⟩
  rw [← UInt8.ofNat_toNat (x := x)]
  rcases hx with hx | hx
  · rw [hx]
    exact hdigit.1
  · rw [hx]
    exact hdigit.2

theorem readHex_spelled (h : FourHex d n) (rest : Bytes) : readHex (d ++ rest) = .ok (n, rest) := by
  cases h with
  | digits ha hb hc hd =>
    simp only [List.cons_append, List.nil_append, readHex, fourHex?, hexValue?_of_hex ha, hexValue?_of_hex hb,
      hexValue?_of_hex hc, hexValue?_of_hex hd]
    rfl

/-- A character's number is none of those of which pairs are made. -/
theorem not_surrogate (c : Char) : isLeading c.toNat = false ∧ isTrailing c.toNat = false := by
  have hc : c.toNat < 0xD800 ∨ 0xDFFF < c.toNat ∧ c.toNat < 0x110000 := c.valid
  simp only [isLeading, isTrailing, Bool.and_eq_false_iff, decide_eq_false_iff_not]
  omega

theorem codePoint_toNat (c : Char) : codePoint c.toNat = String.utf8EncodeChar c := by
  rw [codePoint, Char.ofNat_toNat]

theorem readEscape_numbered (h : FourHex d c.toNat) (rest : Bytes) :
    readEscape (Sign.letterU :: (d ++ rest)) = .ok (String.utf8EncodeChar c, rest) := by
  obtain ⟨hlead, htrail⟩ := not_surrogate c
  rw [readEscape, if_pos rfl, readNumbered, readHex_spelled h]
  simp only [bind, Except.bind, hlead, htrail, codePoint_toNat]
  rfl

theorem readEscape_pair {d' : Bytes} {high low : Nat} (hhigh : high < 0x400) (hlow : low < 0x400)
    (h : FourHex d (0xD800 + high)) (h' : FourHex d' (0xDC00 + low)) (hc : c.toNat = 0x10000 + high * 0x400 + low)
    (rest : Bytes) :
    readEscape (Sign.letterU :: (d ++ Sign.backslash :: Sign.letterU :: (d' ++ rest))) =
      .ok (String.utf8EncodeChar c, rest) := by
  have hlead : isLeading (0xD800 + high) = true := by
    simp only [isLeading, Bool.and_eq_true, decide_eq_true_eq]
    omega
  have htrail : isTrailing (0xD800 + high) = false := by
    simp only [isTrailing, Bool.and_eq_false_iff, decide_eq_false_iff_not]
    omega
  have htrail' : isTrailing (0xDC00 + low) = true := by
    simp only [isTrailing, Bool.and_eq_true, decide_eq_true_eq]
    omega
  have hjoin : joinSurrogates (0xD800 + high) (0xDC00 + low) = c.toNat := by
    rw [joinSurrogates, hc]
    omega
  rw [readEscape, if_pos rfl, readNumbered, readHex_spelled h]
  simp only [bind, Except.bind, htrail, hlead, readHex_spelled h', htrail', hjoin, codePoint_toNat]
  rfl

theorem readEscape_short (h : (x, c) ∈ shortEscapes) (rest : Bytes) :
    readEscape (x :: rest) = .ok (String.utf8EncodeChar c, rest) := by
  have hall : ∀ p ∈ shortEscapes, p.1 ≠ Sign.letterU ∧
      (shortEscape? p.1).map ([·]) = some (String.utf8EncodeChar p.2) := by decide
  obtain ⟨hne, hshort⟩ := hall _ h
  obtain ⟨b, hb, hbytes⟩ := Option.map_eq_some_iff.1 hshort
  rw [readEscape, if_neg hne, hb, ← hbytes]

/-- The byte stands for itself in a string. -/
def IsPlainByte (b : UInt8) : Prop := b ≠ Sign.quote ∧ b ≠ Sign.backslash ∧ Sign.isControl b = false

theorem isPlainByte_of_le {b : UInt8} (h : 0x80 ≤ b) : IsPlainByte b := by
  have hne : ∀ x : UInt8, x < 0x80 → b ≠ x := by
    rintro x hx rfl
    exact UInt8.not_lt.2 h hx
  refine ⟨hne _ (by decide), hne _ (by decide), decide_eq_false ?_⟩
  exact UInt8.not_lt.2 (UInt8.le_trans (by decide) h)

/-- All bytes of a plain character stand for themselves. -/
theorem isPlainByte_of_isPlain (hc : IsPlain c) {b : UInt8} (hb : b ∈ String.utf8EncodeChar c) : IsPlainByte b := by
  obtain ⟨hprinted, hquote, hbackslash⟩ := hc
  by_cases h : c.toNat < 0x80
  · have hbyte : b.toNat = c.toNat := by
      rw [utf8EncodeChar_ascii h, List.mem_singleton] at hb
      rw [hb, UInt8.toNat_ofNat']
      omega
    have hne : ∀ c' : Char, c ≠ c' → b.toNat ≠ c'.toNat := by
      intro c' hne heq
      exact hne (Char.toNat_inj.1 (hbyte.symm.trans heq))
    refine ⟨?_, ?_, ?_⟩
    · rintro rfl
      exact hne '"' hquote rfl
    · rintro rfl
      exact hne '\\' hbackslash rfl
    · rw [Sign.isControl, decide_eq_false_iff_not, UInt8.lt_iff_toNat_lt, hbyte]
      exact Nat.not_lt.2 hprinted
  · exact isPlainByte_of_le (le_of_mem_utf8EncodeChar (Nat.le_of_not_lt h) hb)

theorem readChars_plain {u : Bytes} (h : readChars s = .ok (u, rest)) {l : Bytes} (hl : ∀ b ∈ l, IsPlainByte b) :
    readChars (l ++ s) = .ok (l ++ u, rest) := by
  induction l with
  | nil => exact h
  | cons b l ih =>
    obtain ⟨hq, hb, hc⟩ := hl b List.mem_cons_self
    exact readChars_byte hq hb (by simp [hc]) (ih fun x hx => hl x (List.mem_cons_of_mem _ hx))

theorem readChars_spelled (h : SpellsChars s cs) (rest : Bytes) :
    readChars (s ++ Sign.quote :: rest) = .ok (cs.flatMap String.utf8EncodeChar, rest) := by
  induction h with
  | nil => simp [readChars]
  | plain hc _ ih =>
    rw [List.append_assoc, List.flatMap_cons]
    exact readChars_plain ih fun b hb => isPlainByte_of_isPlain hc hb
  | short hx _ ih =>
    rw [List.flatMap_cons]
    exact readChars_escape (readEscape_short hx _) ih
  | numbered hd _ ih =>
    rw [List.flatMap_cons, List.cons_append, List.cons_append, List.append_assoc]
    exact readChars_escape (readEscape_numbered hd _) ih
  | pair hhigh hlow hd hd' hc _ ih =>
    simp only [List.flatMap_cons, List.cons_append, List.append_assoc]
    exact readChars_escape (readEscape_pair hhigh hlow hd hd' hc _) ih

/-- A text is read, however it is spelled. -/
theorem readText_spelled {t : String} (h : SpellsChars s t.toList) (rest : Bytes) :
    readText (s ++ Sign.quote :: rest) = .ok (t, rest) := by
  rw [readText, readChars_spelled h, ← utf8_eq_flatMap]
  simp only [ofUtf8?_utf8]

/-! ## Passing over strings -/

theorem StringBody.plain {l : Bytes} (hl : ∀ b ∈ l, IsPlainByte b) (h : StringBody s) : StringBody (l ++ s) := by
  induction l with
  | nil => exact h
  | cons b l ih =>
    obtain ⟨hq, hb, hc⟩ := hl b List.mem_cons_self
    exact .byte hq hb hc (ih fun x hx => hl x (List.mem_cons_of_mem _ hx))

theorem SpellsChars.stringBody (h : SpellsChars s cs) : StringBody s := by
  induction h with
  | nil => exact .nil
  | plain hc _ ih => exact .plain (fun b hb => isPlainByte_of_isPlain hc hb) ih
  | short hx _ ih => exact .short hx ih
  | numbered hd _ ih => exact .numbered hd ih
  | pair _ _ hd hd' _ _ ih => exact .numbered hd (.numbered hd' ih)

theorem skipText_escape {r : Bytes} (h : skipEscape s = .ok r) : skipText (Sign.backslash :: s) = skipText r := by
  have hne : Sign.backslash ≠ Sign.quote := by decide
  rw [skipText]
  simp only [if_neg hne, if_true]
  split
  · rename_i f hf
    rw [h] at hf
    cases hf
  · rename_i r' hr
    rw [h] at hr
    cases hr
    rfl

theorem skipText_body (h : StringBody s) (rest : Bytes) : skipText (s ++ Sign.quote :: rest) = .ok rest := by
  induction h with
  | nil => simp [skipText]
  | byte hq hb hc _ ih =>
    rw [List.cons_append, skipText, if_neg hq, if_neg hb, if_neg (by simp [hc])]
    exact ih
  | @short x c s hx _ ih =>
    have hall : ∀ p ∈ shortEscapes, p.1 ≠ Sign.letterU ∧ (shortEscape? p.1).isSome = true := by decide
    obtain ⟨hne, hsome⟩ := hall _ hx
    have hescape : skipEscape (x :: (s ++ Sign.quote :: rest)) = .ok (s ++ Sign.quote :: rest) := by
      rw [skipEscape, if_neg hne, if_pos hsome]
    exact (skipText_escape hescape).trans ih
  | @numbered d n s hd _ ih =>
    have hescape : skipEscape (Sign.letterU :: (d ++ (s ++ Sign.quote :: rest))) = .ok (s ++ Sign.quote :: rest) := by
      rw [skipEscape, if_pos rfl, readHex_spelled hd]
      rfl
    rw [List.cons_append, List.cons_append, List.append_assoc]
    exact (skipText_escape hescape).trans ih

/-! ## What is written -/

/-- An ASCII character is written as itself, with a short escape, or with its number. -/
theorem writeByte_ascii (n : Fin 128) :
    (writeByte (UInt8.ofNat n) = [UInt8.ofNat n] ∧ IsPlain (Char.ofNat n)) ∨
      (∃ p ∈ shortEscapes, p.2 = Char.ofNat n ∧ writeByte (UInt8.ofNat n) = [Sign.backslash, p.1]) ∨
      ∃ a ∈ writeByte (UInt8.ofNat n), ∃ b ∈ writeByte (UInt8.ofNat n),
        writeByte (UInt8.ofNat n) = [Sign.backslash, Sign.letterU, 0x30, 0x30, a, b] ∧
          Hex a (n / 16) ∧ Hex b (n % 16) := by
  revert n
  decide +kernel

theorem SpellsChars.written (h : SpellsChars s cs) (c : Char) :
    SpellsChars ((String.utf8EncodeChar c).flatMap writeByte ++ s) (c :: cs) := by
  by_cases hc : c.toNat < 0x80
  · have hchar : Char.ofNat c.toNat = c := Char.ofNat_toNat c
    rw [utf8EncodeChar_ascii hc, List.flatMap_singleton]
    rcases writeByte_ascii ⟨c.toNat, hc⟩ with ⟨hw, hplain⟩ | ⟨⟨x, c'⟩, hmem, hc', hw⟩ | ⟨a, -, b, -, hw, ha, hb⟩
    · simp only [hchar] at hw hplain
      rw [hw, ← utf8EncodeChar_ascii hc]
      exact .plain hplain h
    · simp only [hchar] at hw hc'
      subst hc'
      rw [hw]
      exact .short hmem h
    · simp only at hw ha hb
      rw [hw]
      have hfour : FourHex [0x30, 0x30, a, b] c.toNat := by
        have hnum : c.toNat = ((0 * 16 + 0) * 16 + c.toNat / 16) * 16 + c.toNat % 16 := by omega
        rw [hnum]
        exact .digits (by decide) (by decide) ha hb
      exact .numbered hfour h
  · have hbytes : ∀ b ∈ String.utf8EncodeChar c, writeByte b = [b] := fun b hb =>
      writeByte_of_le (le_of_mem_utf8EncodeChar (Nat.le_of_not_lt hc) hb)
    have hplain : IsPlain c := by
      refine ⟨by omega, ?_, ?_⟩
      · rintro rfl
        exact hc (by decide)
      · rintro rfl
        exact hc (by decide)
    rw [List.flatMap_congr hbytes, List.flatMap_singleton']
    exact .plain hplain h

/-- What is written for a text spells it. -/
theorem spellsChars_written (t : String) : SpellsChars ((utf8 t).flatMap writeByte) t.toList := by
  rw [utf8_eq_flatMap, List.flatMap_assoc]
  induction t.toList with
  | nil => exact .nil
  | cons c cs ih =>
    rw [List.flatMap_cons]
    exact ih.written c

theorem spells_writeText (t : String) : Spells (.value (.text t)) (writeText t) := .text (spellsChars_written t)

theorem spells_writeTexts (l : List String) : Spells (.value (.list (l.map .text))) (writeTexts l) := by
  have hnone := isBlank_nil
  have hmore : ∀ l : List String,
      Spells (.items false (l.map .text)) ((l.map writeText).flatMap (Sign.comma :: ·)) := by
    intro l
    induction l with
    | nil => exact .noItem hnone
    | cons t l ih => exact .item (.comma hnone hnone) (spells_writeText t) ih
  cases l with
  | nil => exact .list (.noItem hnone)
  | cons t l =>
    rw [writeTexts, List.map_cons, List.map_cons, joinParts_cons]
    exact .list (.item (.first hnone) (spells_writeText t) (hmore l))

end Roster.Record
