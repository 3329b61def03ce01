import Roster.Proofs.Bytes
import Roster.Record.Reader
import Roster.Record.Writer

/-!
# A record reads back

What the writer writes the reader reads: bytes of strings one by one, then strings, lists, members
and the whole record. Each lemma leaves an arbitrary rest behind the text it is about, so that the
next part can stand there.
-/

namespace Roster.Record

/-! ## Strings -/

theorem readHex_control (n : Fin 32) (s : Bytes) :
    readHex (Sign.zero :: Sign.zero :: hexByte (UInt8.ofNat n / 16) :: hexByte (UInt8.ofNat n % 16) :: s) =
      .ok (n.val, s) := by
  have h : ∀ n : Fin 32, fourHex? Sign.zero Sign.zero (hexByte (UInt8.ofNat n / 16))
      (hexByte (UInt8.ofNat n % 16)) = some n.val := by decide
  simp only [readHex, h]

theorem codePoint_control (n : Fin 32) : codePoint n.val = [UInt8.ofNat n] := by
  revert n; decide

/-- A control character is written as the escape that reads back as it. -/
theorem readNumbered_control {b : UInt8} (h : Sign.isControl b = true) (s : Bytes) :
    readNumbered (Sign.zero :: Sign.zero :: hexByte (b / 16) :: hexByte (b % 16) :: s) = .ok ([b], s) := by
  have hb : b.toNat < 32 := by simpa [Sign.isControl, UInt8.lt_iff_toNat_lt] using h
  have he : UInt8.ofNat (⟨b.toNat, hb⟩ : Fin 32) = b := UInt8.ofNat_toNat
  have hr := readHex_control ⟨b.toNat, hb⟩ s
  have hc := codePoint_control ⟨b.toNat, hb⟩
  rw [he] at hr hc
  have htrail : isTrailing b.toNat = false := by simp [isTrailing]; omega
  have hlead : isLeading b.toNat = false := by simp [isLeading]; omega
  simp only [readNumbered, hr, bind, Except.bind, htrail, hlead, hc]
  rfl

/-- A byte is written as it is, or as an escape that reads back as it. -/
theorem writeByte_cases (b : UInt8) :
    (writeByte b = [b] ∧ b ≠ Sign.quote ∧ b ≠ Sign.backslash ∧ Sign.isControl b = false) ∨
      ∃ e, writeByte b = Sign.backslash :: e ∧ ∀ s, readEscape (e ++ s) = .ok ([b], s) := by
  unfold writeByte
  -- seven bytes have an escape of their own, one letter long
  split
  · rename_i h; subst h; exact .inr ⟨_, rfl, fun s => rfl⟩
  split
  · rename_i h; subst h; exact .inr ⟨_, rfl, fun s => rfl⟩
  split
  · rename_i h; subst h; exact .inr ⟨_, rfl, fun s => rfl⟩
  split
  · rename_i h; subst h; exact .inr ⟨_, rfl, fun s => rfl⟩
  split
  · rename_i h; subst h; exact .inr ⟨_, rfl, fun s => rfl⟩
  split
  · rename_i h; subst h; exact .inr ⟨_, rfl, fun s => rfl⟩
  split
  · rename_i h; subst h; exact .inr ⟨_, rfl, fun s => rfl⟩
  split
  · rename_i h
    exact .inr ⟨_, rfl, fun s => readNumbered_control h s⟩
  · rename_i hq hb _ _ _ _ _ hc
    exact .inl ⟨rfl, hq, hb, by simpa using hc⟩

/-- Reading a string goes on after an escape. -/
theorem readChars_escape {s r u v rest : Bytes} (he : readEscape s = .ok (u, r)) (h : readChars r = .ok (v, rest)) :
    readChars (Sign.backslash :: s) = .ok (u ++ v, rest) := by
  have hne : Sign.backslash ≠ Sign.quote := by decide
  rw [readChars]
  simp only [if_neg hne, if_true]
  split
  · rename_i f hf
    rw [he] at hf
    cases hf
  · rename_i w s' hw
    rw [he] at hw
    cases hw
    simp only [h]

/-- Reading a string goes on after a byte that stands for itself. -/
theorem readChars_byte {b : UInt8} {s u rest : Bytes} (hq : b ≠ Sign.quote) (hb : b ≠ Sign.backslash)
    (hc : ¬ Sign.isControl b = true) (h : readChars s = .ok (u, rest)) :
    readChars (b :: s) = .ok (b :: u, rest) := by
  rw [readChars, if_neg hq, if_neg hb, if_neg hc, h]

theorem readChars_writeByte (b : UInt8) {s t rest : Bytes} (h : readChars s = .ok (t, rest)) :
    readChars (writeByte b ++ s) = .ok (b :: t, rest) := by
  rcases writeByte_cases b with ⟨hw, hq, hb, hc⟩ | ⟨e, hw, he⟩
  · rw [hw, List.singleton_append]
    exact readChars_byte hq hb (by simp [hc]) h
  · rw [hw, List.cons_append]
    exact readChars_escape (he s) h

theorem readChars_flatMap (b rest : Bytes) :
    readChars (b.flatMap writeByte ++ Sign.quote :: rest) = .ok (b, rest) := by
  induction b with
  | nil => simp [readChars]
  | cons x b ih =>
    rw [List.flatMap_cons, List.append_assoc]
    exact readChars_writeByte x ih

/-- A written text, after its opening quote, reads back. -/
theorem readText_written (t : String) (rest : Bytes) :
    readText ((utf8 t).flatMap writeByte ++ Sign.quote :: rest) = .ok (t, rest) := by
  simp [readText, readChars_flatMap, ofUtf8?_utf8]

theorem writeText_append (t : String) (rest : Bytes) :
    writeText t ++ rest = Sign.quote :: ((utf8 t).flatMap writeByte ++ Sign.quote :: rest) := by
  simp [writeText]

theorem skipSpace_cons {b : UInt8} (h : Sign.isSpace b = false) (s : Bytes) :
    Sign.skipSpace (b :: s) = b :: s := by
  simp [Sign.skipSpace, h]

theorem readString_written (t : String) (rest : Bytes) :
    readString (writeText t ++ rest) = .ok (t, rest) := by
  rw [writeText_append, readString, skipSpace_cons (by decide)]
  simp [readText_written]

/-! ## Lists -/

theorem joinParts_cons (p : Bytes) (ps : List Bytes) :
    joinParts (p :: ps) = p ++ ps.flatMap (Sign.comma :: ·) := by
  induction ps generalizing p with
  | nil => simp [joinParts]
  | cons q ps ih =>
    rw [joinParts, ih, List.flatMap_cons, List.cons_append]
    exact List.cons_ne_nil q ps

/-- One round of reading a list. -/
theorem readItems_eq (first : Bool) (s : Bytes) :
    readItems first s =
      match nextItem first s with
      | .error f => .error f
      | .ok none => .ok ([], s)
      | .ok (some s') =>
        match readString s' with
        | .error f => .error f
        | .ok (t, r) =>
          match readItems false r with
          | .error f => .error f
          | .ok (ts, rest) => .ok (t :: ts, rest) := by
  conv => lhs; rw [readItems]
  split
  · rename_i f hf
    simp only [hf]
  · rename_i hf
    simp only [hf]
  · rename_i s' hf
    simp only [hf]
    split
    · rename_i f hr
      simp only [hr]
    · rename_i t r hr
      cases hrest : readItems false r with
      | error f => simp only [hr, hrest]
      | ok p => simp only [hr, hrest]

theorem readItems_end {first : Bool} {s : Bytes} (h : nextItem first s = .ok none) :
    readItems first s = .ok ([], s) := by
  rw [readItems_eq, h]

theorem readItems_close (first : Bool) (rest : Bytes) :
    readItems first (Sign.listClose :: rest) = .ok ([], Sign.listClose :: rest) := by
  apply readItems_end
  simp [nextItem, skipSpace_cons (b := Sign.listClose) (by decide)]

/-- A list is read on once its next item has been. -/
theorem readItems_item {first : Bool} {s s' s'' rest : Bytes} {t : String} {ts : List String}
    (hn : nextItem first s = .ok (some s')) (hr : readString s' = .ok (t, s''))
    (hs : readItems false s'' = .ok (ts, rest)) : readItems first s = .ok (t :: ts, rest) := by
  rw [readItems_eq, hn]
  simp only [hr, hs]

theorem readItems_more (l : List String) (rest : Bytes) :
    readItems false ((l.map writeText).flatMap (Sign.comma :: ·) ++ Sign.listClose :: rest) =
      .ok (l, Sign.listClose :: rest) := by
  induction l with
  | nil => exact readItems_close false rest
  | cons t l ih =>
    rw [List.map_cons, List.flatMap_cons, List.cons_append, List.cons_append, List.append_assoc]
    refine readItems_item ?_ (readString_written t _) ih
    rw [writeText_append, nextItem, skipSpace_cons (by decide)]
    have h : Sign.comma ≠ Sign.listClose := by decide
    have h' : Sign.quote ≠ Sign.listClose := by decide
    simp [h, h', skipSpace_cons (b := Sign.quote) (by decide)]

theorem readStrings_written (l : List String) (rest : Bytes) :
    readStrings (writeTexts l ++ rest) = .ok (l, rest) := by
  have hitems : readItems true (joinParts (l.map writeText) ++ Sign.listClose :: rest) =
      .ok (l, Sign.listClose :: rest) := by
    cases l with
    | nil => exact readItems_close true rest
    | cons t l =>
      rw [List.map_cons, joinParts_cons, List.append_assoc]
      refine readItems_item ?_ (readString_written t _) (readItems_more l rest)
      rw [writeText_append, nextItem, skipSpace_cons (by decide)]
      have h : Sign.quote ≠ Sign.listClose := by decide
      simp [h]
  have hclose : closeList (Sign.listClose :: rest) = .ok rest := by
    simp [closeList, skipSpace_cons (b := Sign.listClose) (by decide)]
  rw [writeTexts, List.cons_append, List.cons_append, List.append_assoc, List.singleton_append, readStrings,
    skipSpace_cons (by decide)]
  simp only [if_true, hitems, hclose]
  rfl

/-! ## Members -/

theorem skipColon_written (rest : Bytes) : skipColon (Sign.colon :: rest) = .ok rest := by
  simp [skipColon, skipSpace_cons (b := Sign.colon) (by decide)]

theorem nextKey_first (key : String) (rest : Bytes) :
    nextKey true (writeText key ++ rest) = .ok (some (key, rest)) := by
  rw [writeText_append, nextKey, skipSpace_cons (by decide)]
  have h : Sign.quote ≠ Sign.objectClose := by decide
  simp [h, readText_written, Except.map]

theorem nextKey_more (key : String) (rest : Bytes) :
    nextKey false (Sign.comma :: (writeText key ++ rest)) = .ok (some (key, rest)) := by
  rw [writeText_append, nextKey, skipSpace_cons (by decide)]
  have h : Sign.comma ≠ Sign.objectClose := by decide
  simp [h, skipSpace_cons (b := Sign.quote) (by decide), readText_written, Except.map]

theorem nextKey_close (first : Bool) (rest : Bytes) :
    nextKey first (Sign.objectClose :: rest) = .ok none := by
  simp [nextKey, skipSpace_cons (b := Sign.objectClose) (by decide)]

theorem readMember_email (m : Members) (t : String) (rest : Bytes) :
    readMember m (some .email) (writeText t ++ rest) = .ok ({ m with email := some t }, rest) := by
  rw [readMember, readString_written]
  rfl

theorem readMember_fullName (m : Members) (t : String) (rest : Bytes) :
    readMember m (some .fullName) (writeText t ++ rest) = .ok ({ m with fullName := some t }, rest) := by
  rw [readMember, readString_written]
  rfl

theorem readMember_roles (m : Members) (l : List String) (rest : Bytes) :
    readMember m (some .roles) (writeTexts l ++ rest) = .ok ({ m with roles := some l }, rest) := by
  rw [readMember, readStrings_written]
  rfl

/-- An object is read on once its next member has been. -/
theorem readMembers_member {fuel : Nat} {first : Bool} {m m' : Members} {key : String} {f : Field}
    {s value rest : Bytes} (hk : nextKey first s = .ok (some (key, Sign.colon :: value)))
    (hf : field? key = some f) (hm : m.has f = false) (hv : readMember m (some f) value = .ok (m', rest)) :
    readMembers (fuel + 1) first m s = readMembers fuel false m' rest := by
  rw [readMembers]
  simp [hk, hf, hm, skipColon_written, hv]

theorem encode_append (u : User) (rest : Bytes) : encode u ++ rest = Sign.objectOpen ::
    (writeText "email" ++ Sign.colon :: (writeText u.email ++ Sign.comma ::
      (writeText "full_name" ++ Sign.colon :: (writeText u.fullName ++ Sign.comma ::
        (writeText "roles" ++ Sign.colon :: (writeTexts u.roles ++ Sign.objectClose :: rest)))))) := by
  simp [encode, joinParts, writeMember]

/-- A written record reads back as its user, whatever stands behind it. -/
theorem readUser_encode (u : User) (rest : Bytes) : readUser (encode u ++ rest) = .ok (u, rest) := by
  have hemail : field? "email" = some .email := by decide
  have hname : field? "full_name" = some .fullName := by decide
  have hroles : field? "roles" = some .roles := by decide
  have hne : Sign.objectOpen ≠ Sign.listOpen := by decide
  have hmembers (fuel : Nat) :
      readMembers (fuel + 4) true .none
          (writeText "email" ++ Sign.colon :: (writeText u.email ++ Sign.comma ::
            (writeText "full_name" ++ Sign.colon :: (writeText u.fullName ++ Sign.comma ::
              (writeText "roles" ++ Sign.colon :: (writeTexts u.roles ++ Sign.objectClose :: rest)))))) =
        .ok (⟨some u.email, some u.fullName, some u.roles⟩, Sign.objectClose :: rest) := by
    rw [readMembers_member (nextKey_first _ _) hemail rfl (readMember_email _ _ _),
      readMembers_member (nextKey_more _ _) hname rfl (readMember_fullName _ _ _),
      readMembers_member (nextKey_more _ _) hroles rfl (readMember_roles _ _ _), readMembers]
    simp [nextKey_close]
  rw [encode_append, readUser, skipSpace_cons (by decide)]
  simp only [if_neg hne, if_true, readObject]
  -- three members and the end of the object take four rounds, and the text is longer than that
  generalize hs : writeText "email" ++ _ = s at hmembers
  obtain ⟨fuel, hfuel⟩ : ∃ fuel, s.length + 1 = fuel + 4 := by
    refine ⟨s.length - 3, ?_⟩
    have : 3 ≤ s.length := by
      rw [← hs]
      simp [writeText]
      omega
    omega
  rw [hfuel, hmembers]
  simp [pastObject, skipSpace_cons (b := Sign.objectClose) (by decide)]

/-- Every record reads back. -/
theorem decode_encode (u : User) : decode (encode u) = .ok u := by
  have h := readUser_encode u []
  rw [List.append_nil] at h
  simp [decode, h, Sign.skipSpace]

end Roster.Record
