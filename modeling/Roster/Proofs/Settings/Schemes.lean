import Roster.Proofs.Bytes
import Roster.Settings.StoreSettings

/-!
# Schemes of URLs

The scheme of a URL is looked at twice, and cut off at a third place: the kind of store is chosen by the
URL in lower case, where a letter may have become several; the path of a file is what follows a number
of bytes of the URL as it stands; and the pool goes by the URL without blanks in front, with only ASCII
letters in lower case. All three mean the same, that the first bytes of the URL spell the scheme.
-/

namespace Roster

/-! ## Letters in lower case -/

namespace Text

/-- Only the capital ASCII letters have another form. -/
theorem toNat_toLower (c : Char) :
    c.toLower.toNat = if 65 ≤ c.toNat ∧ c.toNat ≤ 90 then c.toNat + 32 else c.toNat := by
  have hupper : c.val ≥ 'A'.val ∧ c.val ≤ 'Z'.val ↔ 65 ≤ c.toNat ∧ c.toNat ≤ 90 := by
    simp only [ge_iff_le, UInt32.le_iff_toNat_le]
    rfl
  unfold Char.toLower
  split
  · rename_i h
    rw [if_pos (hupper.1 h)]
    have hle := (hupper.1 h).2
    show (c.val + 32).toNat = c.val.toNat + 32
    have : c.val.toNat ≤ 90 := hle
    rw [UInt32.toNat_add]
    simp only [UInt32.reduceToNat]
    omega
  · rename_i h
    rw [if_neg fun h' => h (hupper.2 h')]

theorem eq_of_toLower {c x y : Char} (hxy : y.toNat + 32 = x.toNat) (h : c.toLower = x) : c = x ∨ c = y := by
  have hc := toNat_toLower c
  rw [h] at hc
  simp only [← Char.toNat_inj]
  split at hc <;> omega

/-- A letter in lower case is ASCII only if it was before. -/
theorem toLower_ascii {c : Char} : c.toLower.toNat < 0x80 ↔ c.toNat < 0x80 := by
  rw [toNat_toLower]
  split <;> omega

theorem isBlankChar_toLower (c : Char) : isBlankChar c.toLower = isBlankChar c := by
  unfold isBlankChar inRanges
  rw [toNat_toLower, Bool.eq_iff_iff]
  split
  · simp only [blankTable, List.any_eq_true, List.mem_cons, List.not_mem_nil, or_false, exists_eq_or_imp,
      exists_eq_left, Bool.and_eq_true, decide_eq_true_eq]
    omega
  · rfl

/-- Of the capital letters beyond ASCII only the Kelvin sign has a small letter within. -/
theorem lowerCode_ascii {n : Nat} (hn : 0x80 ≤ n) (h : lowerCode n < 0x80) : lowerCode n = 0x6B := by
  have htable : ∀ r ∈ lowerTable, 0x80 ≤ (r.1 : Int) + r.2.2.2 ∨ r = (0x212A, 0x212A, 1, -8383) := by
    decide +kernel
  unfold lowerCode at h ⊢
  split at h
  · rename_i r hfind
    have hin := List.find?_some hfind
    simp only [Bool.and_eq_true, decide_eq_true_eq] at hin
    rcases htable r (List.mem_of_find?_eq_some hfind) with hrow | rfl
    · rw [Int.ofNat_eq_natCast] at h
      omega
    · simp only [Int.ofNat_eq_natCast] at hin ⊢
      omega
  · omega

theorem toNat_ofNat {n : Nat} (h : 0 < (Char.ofNat n).toNat) : (Char.ofNat n).toNat = n := by
  unfold Char.ofNat at h ⊢
  by_cases hvalid : n.isValidChar
  · rw [dif_pos hvalid]
    rfl
  · rw [dif_neg hvalid] at h
    cases h

/-- A text that begins like this in lower case does so with its ASCII letters alone in lower case. -/
theorem prefix_of_lowerChar {p s : List Char} (hp : ∀ x ∈ p, 0 < x.toNat ∧ x.toNat < 0x80 ∧ x ≠ 'k')
    (hlast : p.getLast? ≠ some 'i') (h : p <+: s.flatMap lowerChar) : p <+: s.map Char.toLower := by
  induction p generalizing s with
  | nil => exact List.nil_prefix
  | cons x p ih =>
    cases s with
    | nil => simp at h
    | cons c s =>
      obtain ⟨⟨hpos, hascii, hk⟩, hp⟩ := List.forall_mem_cons.1 hp
      rw [List.flatMap_cons] at h
      unfold lowerChar at h
      split at h
      · obtain ⟨hx, hrest⟩ := List.cons_prefix_cons.1 h
        rw [List.map_cons]
        refine List.cons_prefix_cons.2 ⟨hx, ih hp (fun hi => ?_) hrest⟩
        cases p with
        | nil => cases hi
        | cons y p => exact hlast (by rwa [List.getLast?_cons_cons])
      · rename_i hc
        split at h
        · -- the dot above the capital I remains beside the small letter
          obtain ⟨hx, hrest⟩ := List.cons_prefix_cons.1 h
          cases p with
          | nil => exact absurd (congrArg (fun x => [x].getLast?) hx) hlast
          | cons y p =>
            obtain ⟨hy, -⟩ := List.cons_prefix_cons.1 hrest
            have hdot := (hp y List.mem_cons_self).2.1
            rw [hy] at hdot
            exact absurd hdot (by decide)
        · obtain ⟨hx, -⟩ := List.cons_prefix_cons.1 h
          rw [hx] at hpos hascii
          rw [toNat_ofNat hpos] at hascii
          exact absurd (by rw [hx, lowerCode_ascii (Nat.le_of_not_lt hc) hascii]) hk

/-- Conversely, ASCII letters in lower case are what all letters in lower case begin with. -/
theorem prefix_lowerChar {p s : List Char} (hp : ∀ x ∈ p, x.toNat < 0x80) (h : p <+: s.map Char.toLower) :
    p <+: s.flatMap lowerChar := by
  induction p generalizing s with
  | nil => exact List.nil_prefix
  | cons x p ih =>
    cases s with
    | nil => simp at h
    | cons c s =>
      obtain ⟨hascii, hp⟩ := List.forall_mem_cons.1 hp
      obtain ⟨hx, hrest⟩ := List.cons_prefix_cons.1 h
      rw [List.flatMap_cons, lowerChar, if_pos (toLower_ascii.1 (hx ▸ hascii))]
      exact List.cons_prefix_cons.2 ⟨hx, ih hp hrest⟩

end Text

/-! ## Bytes that spell a scheme -/

namespace Settings

/-- The byte of a small letter for that of a capital one, and any other byte as it is. -/
def smallByte (b : UInt8) : UInt8 := if 0x41 ≤ b ∧ b ≤ 0x5A then b + 0x20 else b

/-- The first bytes of a URL spell a scheme, its letters in either case. -/
def BeginsWith (url scheme : String) : Prop :=
  ((utf8 url).take (byteLength scheme)).map smallByte = utf8 scheme

instance (url scheme : String) : Decidable (BeginsWith url scheme) :=
  inferInstanceAs (Decidable (_ = _))

theorem smallByte_ascii {c : Char} (h : c.toNat < 0x80) :
    smallByte (UInt8.ofNat c.toNat) = UInt8.ofNat c.toLower.toNat := by
  have hbyte : (UInt8.ofNat c.toNat).toNat = c.toNat := by
    rw [UInt8.toNat_ofNat']
    omega
  have hcapital : (0x41 ≤ UInt8.ofNat c.toNat ∧ UInt8.ofNat c.toNat ≤ 0x5A) ↔ 65 ≤ c.toNat ∧ c.toNat ≤ 90 := by
    rw [UInt8.le_iff_toNat_le, UInt8.le_iff_toNat_le, hbyte]
    rfl
  unfold smallByte
  rw [Text.toNat_toLower]
  by_cases hc : 65 ≤ c.toNat ∧ c.toNat ≤ 90
  · rw [if_pos (hcapital.2 hc), if_pos hc, ← UInt8.toNat_inj, UInt8.toNat_add, hbyte, UInt8.toNat_ofNat']
    rfl
  · rw [if_neg (mt hcapital.1 hc), if_neg hc]

theorem smallByte_beyond {b : UInt8} (h : 0x80 ≤ b) : smallByte b = b := by
  refine if_neg fun hb => ?_
  rw [UInt8.le_iff_toNat_le] at h
  have := UInt8.le_iff_toNat_le.1 hb.2
  simp only [UInt8.reduceToNat] at h this
  omega

/-- Bytes spell ASCII letters only for characters whose small form these are. -/
theorem take_utf8_iff {p l : List Char} (hp : ∀ x ∈ p, x.toNat < 0x80) :
    ((l.flatMap String.utf8EncodeChar).take p.length).map smallByte = p.flatMap String.utf8EncodeChar ↔
      p <+: l.map Char.toLower := by
  induction p generalizing l with
  | nil => simp
  | cons x p ih =>
    obtain ⟨hx, hp⟩ := List.forall_mem_cons.1 hp
    rw [List.flatMap_cons, utf8EncodeChar_ascii hx]
    cases l with
    | nil => simp
    | cons c l =>
      rw [List.flatMap_cons, List.map_cons, List.cons_prefix_cons, ← ih hp]
      by_cases hc : c.toNat < 0x80
      · rw [utf8EncodeChar_ascii hc]
        have hbyte : smallByte (UInt8.ofNat c.toNat) = UInt8.ofNat x.toNat ↔ x = c.toLower := by
          have hsmall := Text.toLower_ascii.2 hc
          rw [smallByte_ascii hc, ← UInt8.toNat_inj, UInt8.toNat_ofNat', UInt8.toNat_ofNat', ← Char.toNat_inj]
          omega
        simp [hbyte]
      · -- the first byte of the character is beyond ASCII, and so is its small form
        have hother : x ≠ c.toLower := fun h => hc (Text.toLower_ascii.1 (h ▸ hx))
        have hbeyond (b : UInt8) := @le_of_mem_utf8EncodeChar c (Nat.le_of_not_lt hc) b
        cases he : String.utf8EncodeChar c with
        | nil => exact absurd he (by simp [String.utf8EncodeChar_ne_nil])
        | cons b bs =>
          have hb : 0x80 ≤ b := hbeyond b (he ▸ List.mem_cons_self)
          have hne : b ≠ UInt8.ofNat x.toNat := by
            rintro rfl
            rw [UInt8.le_iff_toNat_le, UInt8.toNat_ofNat'] at hb
            simp only [UInt8.reduceToNat] at hb
            omega
          simp [smallByte_beyond hb, hne, hother]

theorem byteLength_append (s t : String) : byteLength (s ++ t) = byteLength s + byteLength t :=
  String.utf8ByteSize_append

/-- A text of ASCII characters has one byte for each. -/
theorem byteLength_ascii {s : String} (h : ∀ x ∈ s.toList, x.toNat < 0x80) : byteLength s = s.toList.length := by
  have hbytes : byteLength s = (utf8 s).length := rfl
  have hone : ∀ x ∈ s.toList, (String.utf8EncodeChar x).length = 1 := fun x hx => by
    rw [utf8EncodeChar_ascii (h x hx), List.length_singleton]
  rw [hbytes, utf8_eq_flatMap, List.length_flatMap, List.map_congr_left hone, List.map_const',
    List.sum_replicate_nat, Nat.mul_one]

/-! ## Schemes in front -/

/-- What a scheme may be made of so that no other letter is taken for one of its own in lower case: ASCII
characters, none of them a k, which the Kelvin sign has for a small letter, and at the end no i, which the
capital I with a dot begins with. -/
def Unmistakable (scheme : String) : Prop :=
  (∀ x ∈ scheme.toList, 0 < x.toNat ∧ x.toNat < 0x80 ∧ x ≠ 'k') ∧ scheme.toList.getLast? ≠ some 'i'

instance (scheme : String) : Decidable (Unmistakable scheme) :=
  have : Decidable (∀ x ∈ scheme.toList, 0 < x.toNat ∧ x.toNat < 0x80 ∧ x ≠ 'k') := List.decidableBAll _ _
  inferInstanceAs (Decidable (_ ∧ _))

theorem unmistakable_embedded : Unmistakable embeddedScheme := by decide +kernel

theorem unmistakable_relational : ∀ scheme ∈ relationalSchemes, Unmistakable scheme := by decide +kernel

/-- A spelling of the scheme: the same but for the case of ASCII letters. -/
def IsSpelling (front scheme : String) : Prop := front.toList.map Char.toLower = scheme.toList

instance (front scheme : String) : Decidable (IsSpelling front scheme) := inferInstanceAs (Decidable (_ = _))

variable {url scheme front : String}

theorem Unmistakable.ascii (h : Unmistakable scheme) : ∀ x ∈ scheme.toList, x.toNat < 0x80 :=
  fun x hx => (h.1 x hx).2.1

theorem begins_iff (h : Unmistakable scheme) :
    BeginsWith url scheme ↔ scheme.toList <+: url.toList.map Char.toLower := by
  rw [BeginsWith, byteLength_ascii h.ascii, utf8_eq_flatMap, utf8_eq_flatMap, take_utf8_iff h.ascii]

/-- A URL that begins with a scheme begins with any part of it. -/
theorem BeginsWith.begins_part {part : String} (h : BeginsWith url scheme) (hs : Unmistakable scheme)
    (hpart : Unmistakable part) (hfirst : part.toList <+: scheme.toList) : BeginsWith url part :=
  (begins_iff hpart).2 (hfirst.trans ((begins_iff hs).1 h))

/-- To look for a scheme in the URL in lower case is to look at its first bytes. -/
theorem hasScheme_iff (h : Unmistakable scheme) :
    StoreSettings.hasScheme (Text.lowerChars url) scheme = true ↔ BeginsWith url scheme := by
  rw [StoreSettings.hasScheme, List.isPrefixOf_iff_prefix, begins_iff h]
  exact ⟨Text.prefix_of_lowerChar h.1 h.2, Text.prefix_lowerChar h.ascii⟩

theorem IsSpelling.ascii (h : IsSpelling front scheme) (hs : Unmistakable scheme) :
    ∀ x ∈ front.toList, x.toNat < 0x80 :=
  fun _ hx => Text.toLower_ascii.1 (hs.ascii _ (h ▸ List.mem_map_of_mem hx))

theorem IsSpelling.byteLength_eq (h : IsSpelling front scheme) (hs : Unmistakable scheme) :
    byteLength front = byteLength scheme := by
  rw [byteLength_ascii (h.ascii hs), byteLength_ascii hs.ascii, ← h, List.length_map]

theorem IsSpelling.begins (h : IsSpelling front scheme) (hs : Unmistakable scheme) (rest : String) :
    BeginsWith (front ++ rest) scheme := by
  rw [begins_iff hs, String.toList_append, List.map_append, h]
  exact List.prefix_append ..

/-- A URL that begins with a scheme is a spelling of it and a rest. -/
theorem BeginsWith.cut (h : BeginsWith url scheme) (hs : Unmistakable scheme) :
    ∃ front rest : String, url = front ++ rest ∧ IsSpelling front scheme := by
  obtain ⟨more, hmore⟩ := (begins_iff hs).1 h
  obtain ⟨front, rest, hurl, hfront, -⟩ := List.map_eq_append_iff.1 hmore.symm
  refine ⟨String.ofList front, String.ofList rest, ?_, ?_⟩
  · rw [← String.ofList_append, ← hurl, String.ofList_toList]
  · rw [IsSpelling, String.toList_ofList, hfront]

theorem textFrom?_append (front rest : String) : textFrom? (front ++ rest) (byteLength front) = some rest := by
  have hlength : byteLength front = (utf8 front).length := rfl
  have hle : byteLength front ≤ byteLength (front ++ rest) := by
    rw [byteLength_append]
    exact Nat.le_add_right ..
  rw [textFrom?, if_pos hle, utf8_append, hlength, List.drop_left, ofUtf8?_utf8]

/-! ## The kind of store -/

namespace StoreSettings

variable {s : StoreSettings} {path : String}

/-- No URL begins with the scheme of files and with one of databases. -/
theorem not_begins_both {scheme : String} (hmem : scheme ∈ relationalSchemes) (h : BeginsWith s.url scheme) :
    ¬ BeginsWith s.url embeddedScheme := by
  have hdiffer : ∀ scheme ∈ relationalSchemes, ¬ (scheme.toList <+: embeddedScheme.toList) ∧
      ¬ (embeddedScheme.toList <+: scheme.toList) := by
    decide +kernel
  intro he
  rw [begins_iff unmistakable_embedded] at he
  rw [begins_iff (unmistakable_relational scheme hmem)] at h
  rcases List.prefix_or_prefix_of_prefix h he with h | h
  · exact (hdiffer scheme hmem).1 h
  · exact (hdiffer scheme hmem).2 h

/-- Behind the scheme of files stands the path. -/
theorem backend?_embedded (hurl : s.url = front ++ path) (hfront : IsSpelling front embeddedScheme) :
    s.backend? = if path = "" then .error (.noPath s.url) else .ok (.embedded path) := by
  have hbegins : BeginsWith s.url embeddedScheme := hurl ▸ hfront.begins unmistakable_embedded _
  have htext : textFrom? s.url (byteLength embeddedScheme) = some path := by
    rw [hurl, ← hfront.byteLength_eq unmistakable_embedded, textFrom?_append]
  unfold backend?
  simp only [(hasScheme_iff unmistakable_embedded).2 hbegins, if_true, htext]
  split <;> simp_all

/-- A database keeps the whole URL. -/
theorem backend?_relational {scheme : String} (hmem : scheme ∈ relationalSchemes) (h : BeginsWith s.url scheme) :
    s.backend? = .ok (.relational s.url) := by
  have hother : hasScheme (Text.lowerChars s.url) embeddedScheme = false := by
    rw [← Bool.not_eq_true, hasScheme_iff unmistakable_embedded]
    exact not_begins_both hmem h
  have hany : relationalSchemes.any (hasScheme (Text.lowerChars s.url)) = true :=
    List.any_eq_true.2 ⟨scheme, hmem, (hasScheme_iff (unmistakable_relational scheme hmem)).2 h⟩
  unfold backend?
  simp only [hother, Bool.false_eq_true, if_false, hany, if_true]

theorem backend?_unsupported (he : ¬ BeginsWith s.url embeddedScheme)
    (hr : ∀ scheme ∈ relationalSchemes, ¬ BeginsWith s.url scheme) :
    s.backend? = .error (.unsupportedUrl s.url) := by
  have hother : hasScheme (Text.lowerChars s.url) embeddedScheme = false := by
    rwa [← Bool.not_eq_true, hasScheme_iff unmistakable_embedded]
  have hnone : relationalSchemes.any (hasScheme (Text.lowerChars s.url)) = false := by
    refine List.any_eq_false.2 fun scheme hmem h => hr scheme hmem ?_
    exact (hasScheme_iff (unmistakable_relational scheme hmem)).1 h
  unfold backend?
  simp only [hother, hnone, Bool.false_eq_true, if_false]

/-- The schemes that a URL can have: that of files with a path behind it, one of databases, or none. -/
theorem backend?_cases (s : StoreSettings) :
    (∃ front path, s.url = front ++ path ∧ IsSpelling front embeddedScheme) ∨
      (∃ scheme ∈ relationalSchemes, BeginsWith s.url scheme) ∨
      (¬ BeginsWith s.url embeddedScheme ∧ ∀ scheme ∈ relationalSchemes, ¬ BeginsWith s.url scheme) := by
  by_cases he : BeginsWith s.url embeddedScheme
  · exact .inl (he.cut unmistakable_embedded)
  by_cases hr : ∃ scheme ∈ relationalSchemes, BeginsWith s.url scheme
  · exact .inr (.inl hr)
  · exact .inr (.inr ⟨he, fun scheme hmem h => hr ⟨scheme, hmem, h⟩⟩)

theorem backend?_eq_embedded :
    s.backend? = .ok (.embedded path) ↔
      path ≠ "" ∧ ∃ front, s.url = front ++ path ∧ IsSpelling front embeddedScheme := by
  constructor
  · intro h
    rcases s.backend?_cases with ⟨front, path', hurl, hfront⟩ | ⟨scheme, hmem, hbegins⟩ | ⟨he, hr⟩
    · rw [backend?_embedded hurl hfront] at h
      split at h
      · cases h
      · rename_i hne
        cases h
        exact ⟨hne, front, hurl, hfront⟩
    · rw [backend?_relational hmem hbegins] at h
      cases h
    · rw [backend?_unsupported he hr] at h
      cases h
  · rintro ⟨hne, front, hurl, hfront⟩
    rw [backend?_embedded hurl hfront, if_neg hne]

/-- Files are chosen by a path behind the seven bytes of their scheme. -/
theorem exists_embedded_iff :
    (∃ path, s.backend? = .ok (.embedded path)) ↔ BeginsWith s.url "redb://" ∧ 7 < byteLength s.url := by
  simp only [backend?_eq_embedded]
  constructor
  · rintro ⟨path, hne, front, hurl, hfront⟩
    refine ⟨hurl ▸ hfront.begins unmistakable_embedded _, ?_⟩
    rw [hurl, byteLength_append, hfront.byteLength_eq unmistakable_embedded]
    exact Nat.lt_add_of_pos_right (Nat.pos_of_ne_zero fun h => hne (String.utf8ByteSize_eq_zero_iff.1 h))
  · rintro ⟨hbegins, hlong⟩
    obtain ⟨front, path, hurl, hfront⟩ := hbegins.cut unmistakable_embedded
    refine ⟨path, ?_, front, hurl, hfront⟩
    rintro rfl
    rw [hurl, byteLength_append, hfront.byteLength_eq unmistakable_embedded] at hlong
    exact absurd hlong (by decide)

theorem utf8_of_embedded (h : s.backend? = .ok (.embedded path)) : utf8 path = (utf8 s.url).drop 7 := by
  obtain ⟨-, front, hurl, hfront⟩ := backend?_eq_embedded.1 h
  have hlength : (utf8 front).length = 7 := hfront.byteLength_eq unmistakable_embedded
  rw [hurl, utf8_append, ← hlength, List.drop_left]

theorem backend?_eq_relational {url : String} :
    s.backend? = .ok (.relational url) ↔ url = s.url ∧ ∃ scheme ∈ relationalSchemes, BeginsWith s.url scheme := by
  constructor
  · intro h
    rcases s.backend?_cases with ⟨front, path, hurl, hfront⟩ | ⟨scheme, hmem, hbegins⟩ | ⟨he, hr⟩
    · rw [backend?_embedded hurl hfront] at h
      split at h <;> cases h
    · rw [backend?_relational hmem hbegins] at h
      cases h
      exact ⟨rfl, scheme, hmem, hbegins⟩
    · rw [backend?_unsupported he hr] at h
      cases h
  · rintro ⟨rfl, scheme, hmem, hbegins⟩
    exact backend?_relational hmem hbegins

/-- All other URLs are refused. -/
theorem exists_error_iff :
    (∃ e, s.backend? = .error e) ↔
      (¬ ∃ path, s.backend? = .ok (.embedded path)) ∧ ¬ ∃ url, s.backend? = .ok (.relational url) := by
  cases hb : s.backend? with
  | error e => simp
  | ok b => cases b <;> simp

/-! ## The pool -/

/-- No URL with a scheme begins with a blank. -/
theorem trimStart_of_begins (hs : Unmistakable scheme)
    (hstart : (scheme.toList.head?.any fun x => !Text.isBlankChar x) = true) (h : BeginsWith url scheme) :
    Text.trimStart url = url := by
  obtain ⟨x, hx, hblank⟩ := (Option.any_eq_true _ _).1 hstart
  obtain ⟨p, hp⟩ := List.head?_eq_some_iff.1 hx
  rw [begins_iff hs, hp] at h
  cases hurl : url.toList with
  | nil => simp [hurl] at h
  | cons c l =>
    rw [hurl, List.map_cons] at h
    have hc : Text.isBlankChar c = false := by
      rw [← Text.isBlankChar_toLower, ← (List.cons_prefix_cons.1 h).1]
      simpa using hblank
    refine String.toList_inj.1 ?_
    simp [Text.trimStart, hurl, hc]

/-- The pool of settings that choose a store goes by the scheme of databases in files. -/
theorem poolBounds_of_backend {b : StoreBackend} (h : s.backend? = .ok b) :
    s.poolBounds =
      if BeginsWith s.url "sqlite:" then (1, 1) else (s.maxConnections, min s.minConnections s.maxConnections) := by
  have hstart : ∀ scheme ∈ relationalSchemes, (scheme.toList.head?.any fun x => !Text.isBlankChar x) = true := by
    decide +kernel
  have htrim : Text.trimStart s.url = s.url := by
    rcases s.backend?_cases with ⟨front, path, hurl, hfront⟩ | ⟨scheme, hmem, hbegins⟩ | ⟨he, hr⟩
    · exact trimStart_of_begins unmistakable_embedded (by decide +kernel)
        (hurl ▸ hfront.begins unmistakable_embedded _)
    · exact trimStart_of_begins (unmistakable_relational scheme hmem) (hstart scheme hmem) hbegins
    · rw [backend?_unsupported he hr] at h
      cases h
  have hsqlite : "sqlite:".toList.isPrefixOf (Text.asciiLowerChars s.url) = true ↔ BeginsWith s.url "sqlite:" := by
    rw [List.isPrefixOf_iff_prefix, Text.asciiLowerChars, begins_iff (by decide +kernel)]
  unfold poolBounds
  simp only [htrim, hsqlite]

/-- The scheme of databases in files pins the pool, whatever the settings say of connections. -/
theorem pinned_iff {b : StoreBackend} (h : s.backend? = .ok b) :
    BeginsWith s.url "sqlite:" ↔
      ∀ max min, { s with maxConnections := max, minConnections := min }.poolBounds = (1, 1) := by
  have hbounds (max min : Nat) : { s with maxConnections := max, minConnections := min }.poolBounds =
      if BeginsWith s.url "sqlite:" then (1, 1) else (max, Nat.min min max) :=
    poolBounds_of_backend (s := { s with maxConnections := max, minConnections := min }) (b := b) h
  simp only [hbounds]
  constructor
  · intro hbegins max min
    rw [if_pos hbegins]
  · intro hpinned
    refine Decidable.byContradiction fun hother => ?_
    have htwo := hpinned 2 2
    rw [if_neg hother] at htwo
    cases htwo

/-! ## Any URL -/

/-- Whatever the URL. Where the scheme of files is found in the URL in lower case, its first seven bytes are
whole characters and can be cut off. Files are chosen by exactly the URLs that begin with that scheme and
go on, and what follows is the path; databases by exactly those that begin with one of their schemes; and
all other URLs are refused. The pool of one that is not refused is pinned for the scheme of databases in
files and for no other. -/
theorem selection_of_any_url (s : StoreSettings) :
    (hasScheme (Text.lowerChars s.url) embeddedScheme = true →
      ∃ front rest, s.url = front ++ rest ∧ byteLength front = 7 ∧
        textFrom? s.url (byteLength embeddedScheme) = some rest) ∧
    ((∃ path, s.backend? = .ok (.embedded path)) ↔ BeginsWith s.url "redb://" ∧ 7 < byteLength s.url) ∧
    (∀ path, s.backend? = .ok (.embedded path) → utf8 path = (utf8 s.url).drop 7) ∧
    (∀ url, s.backend? = .ok (.relational url) ↔ url = s.url ∧
      (BeginsWith s.url "postgres://" ∨ BeginsWith s.url "postgresql://" ∨ BeginsWith s.url "sqlite:")) ∧
    ((∃ e, s.backend? = .error e) ↔ ¬ (BeginsWith s.url "redb://" ∧ 7 < byteLength s.url) ∧
      ¬ (BeginsWith s.url "postgres://" ∨ BeginsWith s.url "postgresql://" ∨ BeginsWith s.url "sqlite:")) ∧
    ∀ b, s.backend? = .ok b →
      (BeginsWith s.url "sqlite:" ↔
        ∀ max min, { s with maxConnections := max, minConnections := min }.poolBounds = (1, 1)) ∧
      (¬ BeginsWith s.url "sqlite:" → s.poolBounds = (s.maxConnections, min s.minConnections s.maxConnections)) := by
  have hdatabase (url : String) : s.backend? = .ok (.relational url) ↔ url = s.url ∧
      (BeginsWith s.url "postgres://" ∨ BeginsWith s.url "postgresql://" ∨ BeginsWith s.url "sqlite:") := by
    rw [backend?_eq_relational]
    simp [relationalSchemes]
  refine ⟨fun h => ?_, exists_embedded_iff, fun path => utf8_of_embedded, hdatabase, ?_, fun b h => ?_⟩
  · obtain ⟨front, rest, hurl, hfront⟩ :=
      ((hasScheme_iff unmistakable_embedded).1 h).cut unmistakable_embedded
    have hlength := hfront.byteLength_eq unmistakable_embedded
    exact ⟨front, rest, hurl, hlength, by rw [hurl, ← hlength, textFrom?_append]⟩
  · rw [exists_error_iff, exists_embedded_iff]
    simp only [hdatabase, exists_eq_left]
  · refine ⟨pinned_iff h, fun hother => ?_⟩
    rw [poolBounds_of_backend h, if_neg hother]

/-- Letters in either case, with a path that is not ASCII, and a capital I with a dot. -/
theorem selection_of_odd_letters :
    let files := { StoreSettings.default with url := "rEDb://É" }
    let database := { StoreSettings.default with url := "SqLite:x" }
    let neither := { StoreSettings.default with url := "SQLİTE:x" }
    (∃ path, files.backend? = .ok (.embedded path) ∧ utf8 path = [0xC3, 0x89]) ∧
      (database.backend? = .ok (.relational "SqLite:x") ∧
        ∀ max min, { database with maxConnections := max, minConnections := min }.poolBounds = (1, 1)) ∧
      ∃ e, neither.backend? = .error e := by
  intro files database neither
  obtain ⟨-, hfile, hpath, -⟩ := selection_of_any_url files
  obtain ⟨-, -, -, hdatabase, -, hpool⟩ := selection_of_any_url database
  obtain ⟨-, -, -, -, herror, -⟩ := selection_of_any_url neither
  obtain ⟨path, hp⟩ := hfile.2 (by decide +kernel)
  have hd : database.backend? = .ok (.relational "SqLite:x") := (hdatabase _).2 (by decide +kernel)
  refine ⟨⟨path, hp, ?_⟩, ⟨hd, (hpool _ hd).1.1 (by decide +kernel)⟩, herror.2 (by decide +kernel)⟩
  rw [hpath path hp]
  decide +kernel

end StoreSettings

end Settings

end Roster
