import Mathlib.Data.List.Flatten
import Roster.Proofs.Settings.Schemes
import Roster.Store

/-!
# Database URLs by the letters of their scheme

Settings find the scheme of a URL in either case, and so does the check that a URL is a valid one. The
reader of the location takes it off in small letters only. In any other spelling the scheme stays in front
of the path, which is then that of another file. The path of an embedded store is what follows the scheme
in every spelling.
-/

namespace Roster.Relational

open Settings

variable {front rest : String} {url : String}

/-! ## The scheme of a valid URL -/

/-- What of the text behind a scheme is not ignored. -/
def behind (rest : String) : List Char :=
  (rest.toList.reverse.dropWhile isUrlEdge).reverse.filter (!isUrlIgnored ·)

/-- The text may stand behind the colon of a scheme. -/
def isBehindScheme (rest : String) : Bool :=
  match behind rest with
  | '/' :: '/' :: more => isAuthority more
  | _ => true

theorem urlChars_append (hne : front.toList ≠ []) (hfront : ∀ c ∈ front.toList, 0x20 < c.toNat) :
    urlChars (front ++ rest) = front.toList ++ behind rest := by
  have hedge : ∀ c ∈ front.toList, isUrlEdge c = false := fun c hc => by
    simpa [isUrlEdge] using hfront c hc
  have hkept : ∀ c ∈ front.toList, (!isUrlIgnored c) = true := fun c hc => by
    have := hfront c hc
    simp only [isUrlIgnored, Bool.not_or, Bool.and_eq_true, Bool.not_eq_true', beq_eq_false_iff_ne, ne_eq]
    refine ⟨⟨?_, ?_⟩, ?_⟩ <;> rintro rfl <;> exact absurd this (by decide)
  have hdrop {l : List Char} (hl : l ≠ []) (h : ∀ c ∈ l, isUrlEdge c = false) (more : List Char) :
      (l ++ more).dropWhile isUrlEdge = l ++ more := by
    cases l with
    | nil => exact absurd rfl hl
    | cons c l => simp [h c List.mem_cons_self]
  have hback : (rest.toList.reverse ++ front.toList.reverse).dropWhile isUrlEdge =
      rest.toList.reverse.dropWhile isUrlEdge ++ front.toList.reverse := by
    rw [List.dropWhile_append]
    have := hdrop (l := front.toList.reverse) (by simpa using hne) (by simpa using hedge) []
    rw [List.append_nil] at this
    split
    · rename_i hempty
      rw [this, List.isEmpty_iff.1 hempty, List.nil_append]
    · rfl
  unfold urlChars behind
  simp only [String.toList_append, hdrop hne hedge, List.reverse_append, hback, List.reverse_reverse,
    List.filter_append]
  rw [List.filter_eq_self.2 hkept]

theorem isUpper_iff {c : Char} : c.isUpper = true ↔ 65 ≤ c.toNat ∧ c.toNat ≤ 90 := by
  change decide ('A'.val ≤ c.val ∧ c.val ≤ 'Z'.val) = true ↔ _
  simp only [decide_eq_true_eq, UInt32.le_iff_toNat_le]
  rfl

theorem isLower_iff {c : Char} : c.isLower = true ↔ 97 ≤ c.toNat ∧ c.toNat ≤ 122 := by
  change (decide ('a'.val ≤ c.val) && decide (c.val ≤ 'z'.val)) = true ↔ _
  simp only [Bool.and_eq_true, decide_eq_true_eq, UInt32.le_iff_toNat_le]
  rfl

theorem isAlpha_iff {c : Char} :
    c.isAlpha = true ↔ (65 ≤ c.toNat ∧ c.toNat ≤ 90) ∨ (97 ≤ c.toNat ∧ c.toNat ≤ 122) := by
  change (c.isUpper || c.isLower) = true ↔ _
  rw [Bool.or_eq_true, isUpper_iff, isLower_iff]

/-- A spelling of a name and a colon has as many letters as the name, and the colon. -/
theorem exists_letters {name : String} (hname : name.toList.all Char.isLower = true)
    (h : IsSpelling front (name ++ ":")) :
    ∃ letters : List Char, front.toList = letters ++ [':'] ∧ letters.map Char.toLower = name.toList ∧
      ∀ c ∈ letters, c.isAlpha = true := by
  rw [IsSpelling, String.toList_append] at h
  obtain ⟨letters, colon, hfront, hletters, hcolon⟩ := List.map_eq_append_iff.1 h
  obtain ⟨c, rfl, hc⟩ := List.map_eq_singleton_iff.1 hcolon
  have hc : c = ':' := by
    have hcode : c.toLower.toNat = 58 := congrArg Char.toNat hc
    rw [Text.toNat_toLower] at hcode
    have hcolon : c.toNat = (':' : Char).toNat := by
      show c.toNat = 58
      split at hcode <;> omega
    exact Char.toNat_inj.1 hcolon
  refine ⟨letters, hc ▸ hfront, hletters, fun c hc => ?_⟩
  have hsmall := isLower_iff.1 (List.all_eq_true.1 hname _ (hletters ▸ List.mem_map_of_mem hc))
  rw [Text.toNat_toLower] at hsmall
  rw [isAlpha_iff]
  split at hsmall <;> omega

/-- The scheme of a URL is its name in small letters, whatever the case in which it is written. -/
theorem schemeOf?_append (name : String) (hne : name ≠ "")
    (hname : name.toList.all Char.isLower = true) (h : IsSpelling front (name ++ ":")) :
    schemeOf? (front ++ rest) = if isBehindScheme rest then some name else none := by
  obtain ⟨letters, hfront, hletters, halpha⟩ := exists_letters hname h
  have hchars : urlChars (front ++ rest) = letters ++ ':' :: behind rest := by
    rw [urlChars_append (by simp [hfront]), hfront, List.append_assoc, List.singleton_append]
    intro c hc
    rcases List.mem_append.1 (hfront ▸ hc) with hc | hc
    · have := isAlpha_iff.1 (halpha c hc)
      omega
    · cases List.mem_singleton.1 hc
      decide
  have hscheme : urlScheme? (letters ++ ':' :: behind rest) = some (name, behind rest) := by
    have hall : ∀ c ∈ letters, (c.isAlphanum || c == '+' || c == '-' || c == '.') = true := fun c hc => by
      simp [Char.isAlphanum, halpha c hc]
    have hdrop : (letters ++ ':' :: behind rest).dropWhile _ = (':' :: behind rest).dropWhile _ :=
      List.dropWhile_append_of_pos hall
    have htake : (letters ++ ':' :: behind rest).takeWhile _ = letters ++ (':' :: behind rest).takeWhile _ :=
      List.takeWhile_append_of_pos hall
    cases hl : letters with
    | nil =>
      rw [hl, List.map_nil] at hletters
      exact absurd (String.toList_eq_nil_iff.1 hletters.symm) hne
    | cons c l =>
      rw [hl] at hdrop htake hletters halpha
      simp only [urlScheme?, List.cons_append] at hdrop htake ⊢
      rw [hdrop, htake, List.dropWhile_cons_of_neg (by decide), List.takeWhile_cons_of_neg (by decide)]
      simp only [halpha c List.mem_cons_self, if_true, List.append_nil, hletters, String.ofList_toList]
  unfold schemeOf? isBehindScheme
  rw [hchars, hscheme]
  split <;> simp_all

/-! ## What stands before a question mark -/

theorem cutAt_append {a b : Bytes} {x : UInt8} (h : x ∉ a) :
    Text.cutAt x (a ++ b) = (a ++ (Text.cutAt x b).1, (Text.cutAt x b).2) := by
  induction a with
  | nil => rfl
  | cons y a ih =>
    rw [List.mem_cons, not_or] at h
    have hy : (y == x) = false := beq_eq_false_iff_ne.2 (Ne.symm h.1)
    simp only [List.cons_append, Text.cutAt, hy, Bool.false_eq_true, if_false, ih h.2]

theorem percentDecode_cons {x : UInt8} (h : x ≠ 0x25) (b : Bytes) :
    Text.percentDecode (x :: b) = x :: Text.percentDecode b := by
  rw [Text.percentDecode]
  rintro _ _ _ rfl
  exact absurd rfl h

theorem percentDecode_append {a b : Bytes} (h : 0x25 ∉ a) :
    Text.percentDecode (a ++ b) = a ++ Text.percentDecode b := by
  induction a with
  | nil => rfl
  | cons x a ih =>
    rw [List.mem_cons, not_or] at h
    rw [List.cons_append, percentDecode_cons (Ne.symm h.1), ih h.2, List.cons_append]

/-- Decoding makes nothing longer. -/
theorem length_percentDecode_le (b : Bytes) : (Text.percentDecode b).length ≤ b.length := by
  fun_induction Text.percentDecode b with
  | case1 a b rest x y hx hy ih =>
    simp only [List.length_cons]
    omega
  | case2 a b rest _ ih => exact Nat.succ_le_succ ih
  | case3 b rest _ ih => exact Nat.succ_le_succ ih
  | case4 => exact Nat.le_refl _

/-- An ASCII byte stands for its character and for nothing else. -/
theorem mem_of_byte_mem {s : String} {c : Char} (hc : c.toNat < 0x80) (h : UInt8.ofNat c.toNat ∈ utf8 s) :
    c ∈ s.toList := by
  rw [utf8_eq_flatMap, List.mem_flatMap] at h
  obtain ⟨x, hx, hb⟩ := h
  by_cases hascii : x.toNat < 0x80
  · rw [utf8EncodeChar_ascii hascii, List.mem_singleton, ← UInt8.toNat_inj, UInt8.toNat_ofNat',
      UInt8.toNat_ofNat'] at hb
    have : c = x := Char.toNat_inj.1 (by omega)
    exact this ▸ hx
  · have := le_of_mem_utf8EncodeChar (Nat.le_of_not_lt hascii) hb
    rw [UInt8.le_iff_toNat_le, UInt8.toNat_ofNat'] at this
    simp only [UInt8.reduceToNat] at this
    omega

/-! ## The scheme taken off -/

/-- The text of a URL without the scheme that is taken off. -/
def withoutScheme (url : String) : List Char :=
  dropScheme "sqlite:".toList url.length (dropScheme "sqlite://".toList url.length url.toList)

/-- The location that a text names whose scheme has been taken off. -/
def locationIn? (s : List Char) : Option Location := do
  let (database, options) := Text.cutAt 0x3F (utf8 (String.ofList s))
  let path ← pathOf? database
  (Text.formPairs (options.getD [])).foldlM Location.apply? ⟨path, false, false, false⟩

theorem location?_eq (url : String) : location? url = locationIn? (withoutScheme url) := rfl

theorem dropScheme_eq_self {scheme s : List Char} (h : ¬ scheme <+: s) (n : Nat) :
    dropScheme scheme n s = s := by
  cases n with
  | zero => rfl
  | succ n => rw [dropScheme, if_neg (by rwa [List.isPrefixOf_iff_prefix])]

/-- Nothing but schemes is taken off. -/
theorem exists_taken (scheme : List Char) (n : Nat) (s : List Char) :
    ∃ taken, s = taken ++ dropScheme scheme n s ∧ ∀ c ∈ taken, c ∈ scheme := by
  induction n generalizing s with
  | zero => exact ⟨[], rfl, nofun⟩
  | succ n ih =>
    rw [dropScheme]
    split
    · rename_i h
      obtain ⟨more, rfl⟩ := List.isPrefixOf_iff_prefix.1 h
      obtain ⟨taken, hmore, htaken⟩ := ih more
      rw [List.drop_left]
      refine ⟨scheme ++ taken, by rw [List.append_assoc, ← hmore], fun c hc => ?_⟩
      exact (List.mem_append.1 hc).elim id (htaken c)
    · exact ⟨[], rfl, nofun⟩

theorem dropScheme_append (scheme more : List Char) (n : Nat) :
    dropScheme scheme (n + 1) (scheme ++ more) = dropScheme scheme n more := by
  rw [dropScheme, if_pos (List.isPrefixOf_iff_prefix.2 (List.prefix_append ..)), List.drop_left]

/-- In small letters the scheme is taken off. -/
theorem withoutScheme_small (rest : String) :
    ∃ taken, rest.toList = taken ++ withoutScheme ("sqlite:" ++ rest) ∧
      ∀ c ∈ taken, c ∈ "sqlite://".toList := by
  obtain ⟨n, hn⟩ : ∃ n, ("sqlite:" ++ rest).length = n + 1 :=
    ⟨rest.length + 6, by rw [String.length_append, Nat.add_comm]; rfl⟩
  have hsub : "sqlite:".toList ⊆ "sqlite://".toList := (List.prefix_append "sqlite:".toList "//".toList).subset
  unfold withoutScheme
  rw [hn, String.toList_append]
  by_cases hslashes : "//".toList <+: rest.toList
  · obtain ⟨more, hmore⟩ := hslashes
    have hscheme : "sqlite:".toList ++ ("//".toList ++ more) = "sqlite://".toList ++ more := rfl
    rw [← hmore, hscheme, dropScheme_append]
    obtain ⟨first, hfirst, hin⟩ := exists_taken "sqlite://".toList n more
    obtain ⟨second, hsecond, hin'⟩ :=
      exists_taken "sqlite:".toList (n + 1) (dropScheme "sqlite://".toList n more)
    refine ⟨"//".toList ++ first ++ second, ?_, ?_⟩
    · rw [List.append_assoc, List.append_assoc, ← hsecond, ← hfirst]
    · simp only [List.mem_append]
      rintro c ((hc | hc) | hc)
      · exact (List.suffix_append "sqlite:".toList "//".toList).subset hc
      · exact hin c hc
      · exact hsub (hin' c hc)
  · have hnot : ¬ "sqlite://".toList <+: "sqlite:".toList ++ rest.toList := fun h =>
      hslashes ((List.prefix_append_right_inj "sqlite:".toList).1 h)
    rw [dropScheme_eq_self hnot, dropScheme_append]
    obtain ⟨taken, htaken, hin⟩ := exists_taken "sqlite:".toList n rest.toList
    exact ⟨taken, htaken, fun c hc => hsub (hin c hc)⟩

/-- In any other spelling it is not. -/
theorem withoutScheme_other (h : IsSpelling front "sqlite:") (hne : front ≠ "sqlite:") :
    withoutScheme (front ++ rest) = (front ++ rest).toList := by
  have hlength : "sqlite:".toList.length = front.toList.length := by rw [← h, List.length_map]
  have hnot : ¬ "sqlite:".toList <+: (front ++ rest).toList := fun hp => by
    rw [String.toList_append] at hp
    have hfront := List.prefix_of_prefix_length_le hp (List.prefix_append ..) (Nat.le_of_eq hlength)
    exact hne (String.toList_inj.1 (hfront.eq_of_length hlength).symm)
  have hnot' : ¬ "sqlite://".toList <+: (front ++ rest).toList := fun hp =>
    hnot (List.IsPrefix.trans (List.prefix_append "sqlite:".toList "//".toList) hp)
  rw [withoutScheme, dropScheme_eq_self hnot', dropScheme_eq_self hnot]

/-! ## The path -/

theorem apply?_path {l l' : Location} {option : Bytes × Bytes} (h : l.apply? option = some l') :
    l'.path = l.path ∨ l'.path = none := by
  unfold Location.apply? at h
  obtain ⟨name, -, h⟩ := Option.bind_eq_some_iff.1 h
  obtain ⟨value, -, h⟩ := Option.bind_eq_some_iff.1 h
  split at h
  case h_4 =>
    cases h
    exact .inr rfl
  case h_11 =>
    split at h
    · cases h
      exact .inl rfl
    · cases h
  case h_12 => cases h
  all_goals
    cases h
    exact .inl rfl

theorem foldlM_apply?_path {options : List (Bytes × Bytes)} {l l' : Location}
    (h : options.foldlM Location.apply? l = some l') : l'.path = l.path ∨ l'.path = none := by
  induction options generalizing l with
  | nil =>
    cases h
    exact .inl rfl
  | cons option options ih =>
    rw [List.foldlM_cons] at h
    obtain ⟨next, hnext, h⟩ := Option.bind_eq_some_iff.1 h
    rcases ih h with hp | hp
    · rw [hp]
      exact apply?_path hnext
    · exact .inr hp

/-- Options may keep a database in memory, but give it no other path. -/
theorem path_of_locationIn {s : List Char} {l : Location} {path : String} (h : locationIn? s = some l)
    (hp : l.path = some path) : pathOf? (Text.cutAt 0x3F (utf8 (String.ofList s))).1 = some (some path) := by
  unfold locationIn? at h
  obtain ⟨path', hpath, h⟩ := Option.bind_eq_some_iff.1 h
  rcases foldlM_apply?_path h with he | he
  · rw [hpath, ← hp, he]
  · rw [hp] at he
    cases he

theorem length_utf8_le {l m : List Char} (h : l.Sublist m) :
    (utf8 (String.ofList l)).length ≤ (utf8 (String.ofList m)).length := by
  rw [utf8_eq_flatMap, utf8_eq_flatMap, String.toList_ofList, String.toList_ofList]
  exact (h.flatMap _).length_le

theorem length_fileUrlPath {s : List Char} {path : String} (h : fileUrlPath? s = some path) :
    (utf8 path).length ≤ (utf8 (String.ofList s)).length := by
  have hread {tail : List Char} {p : Char → Bool} (hsub : tail.Sublist s)
      (h : ofUtf8? (Text.percentDecode (utf8 (String.ofList (tail.takeWhile p)))) = some path) :
      (utf8 path).length ≤ (utf8 (String.ofList s)).length := by
    rw [← ofUtf8?_eq_some.1 h]
    exact Nat.le_trans (length_percentDecode_le _) (length_utf8_le ((List.takeWhile_sublist _).trans hsub))
  unfold fileUrlPath? at h
  split at h
  · simp only [] at h
    split at h
    · exact hread (((List.dropWhile_sublist _).cons _).cons _) h
    · cases h
  · exact hread (.refl _) h

theorem eq_of_chosen {chosen path : String}
    (h : some (if chosen = memoryPath then none else some chosen) = some (some path)) : chosen = path := by
  split at h
  · cases h
  · exact Option.some.inj (Option.some.inj h)

/-- No path is longer than the decoded text that it is read from. -/
theorem length_of_pathOf {encoded : Bytes} {path : String} (h : pathOf? encoded = some (some path)) :
    (utf8 path).length ≤ (Text.percentDecode encoded).length := by
  unfold pathOf? at h
  obtain ⟨whole, hwhole, h⟩ := Option.bind_eq_some_iff.1 h
  rw [ofUtf8?_eq_some.1 hwhole]
  simp only [] at h
  split at h
  · rename_i rest hrest
    obtain ⟨chosen, hfile, h⟩ := Option.bind_eq_some_iff.1 h
    rw [← eq_of_chosen h, ← String.ofList_toList (s := whole), hrest]
    refine Nat.le_trans (length_fileUrlPath hfile) (length_utf8_le ?_)
    exact List.sublist_append_right ['f', 'i', 'l', 'e', ':'] rest
  · exact Nat.le_of_eq (by rw [← eq_of_chosen h])

/-- What is no file URL is the path as it stands. -/
theorem path_of_pathOf {encoded : Bytes} {path : String} (hfile : ¬ [0x66] <+: Text.percentDecode encoded)
    (h : pathOf? encoded = some (some path)) : utf8 path = Text.percentDecode encoded := by
  unfold pathOf? at h
  obtain ⟨whole, hwhole, h⟩ := Option.bind_eq_some_iff.1 h
  rw [ofUtf8?_eq_some.1 hwhole] at hfile ⊢
  simp only [] at h
  split at h
  · rename_i rest hrest
    refine absurd ?_ hfile
    rw [utf8_eq_flatMap, hrest, List.flatMap_cons, utf8EncodeChar_ascii (by decide)]
    exact List.prefix_append ..
  · rw [← eq_of_chosen h]

/-- The bytes of a URL that are read as the path behind the scheme. -/
def pathBytes (rest : String) : Bytes := Text.percentDecode (Text.cutAt 0x3F (utf8 rest)).1

theorem pathBytes_append {a b : List Char} (ha : ∀ c ∈ a, c ≠ '?' ∧ c ≠ '%') :
    pathBytes (String.ofList (a ++ b)) = utf8 (String.ofList a) ++ pathBytes (String.ofList b) := by
  have hfree {c : Char} (hc : c.toNat < 0x80) (hne : ∀ x ∈ a, x ≠ c) :
      UInt8.ofNat c.toNat ∉ utf8 (String.ofList a) := fun h => by
    have := mem_of_byte_mem hc h
    rw [String.toList_ofList] at this
    exact hne c this rfl
  have hmark : 0x3F ∉ utf8 (String.ofList a) := hfree (c := '?') (by decide) fun x hx => (ha x hx).1
  have hpercent : 0x25 ∉ utf8 (String.ofList a) := hfree (c := '%') (by decide) fun x hx => (ha x hx).2
  unfold pathBytes
  rw [String.ofList_append, utf8_append, cutAt_append hmark, percentDecode_append hpercent]

/-- In small letters the scheme is no part of the path. -/
theorem length_path_small {l : Location} {path : String} (h : location? ("sqlite:" ++ rest) = some l)
    (hp : l.path = some path) : (utf8 path).length ≤ (pathBytes rest).length := by
  obtain ⟨taken, hrest, htaken⟩ := withoutScheme_small rest
  have hplain : ∀ c ∈ taken, c ≠ '?' ∧ c ≠ '%' := fun c hc => by
    constructor <;> rintro rfl <;> exact absurd (htaken _ hc) (by decide +kernel)
  have hlength := length_of_pathOf (path_of_locationIn (location?_eq _ ▸ h) hp)
  rw [← String.ofList_toList (s := rest), hrest, pathBytes_append hplain, List.length_append]
  exact Nat.le_trans hlength (Nat.le_add_left ..)

/-- In any other spelling the path begins with it. -/
theorem path_other {l : Location} {path : String} (hfront : IsSpelling front "sqlite:")
    (hne : front ≠ "sqlite:") (h : location? (front ++ rest) = some l) (hp : l.path = some path) :
    utf8 path = utf8 front ++ pathBytes rest := by
  have hplain : ∀ c ∈ front.toList, c ≠ '?' ∧ c ≠ '%' := fun c hc => by
    have hsmall : c.toLower ∈ "sqlite:".toList := hfront ▸ List.mem_map_of_mem hc
    constructor <;> rintro rfl <;> exact absurd hsmall (by decide +kernel)
  have hbytes : pathBytes (front ++ rest) = utf8 front ++ pathBytes rest := by
    have := pathBytes_append (b := rest.toList) hplain
    rwa [← String.toList_append, String.ofList_toList, String.ofList_toList, String.ofList_toList] at this
  have hpath := path_of_locationIn (location?_eq _ ▸ h) hp
  rw [withoutScheme_other hfront hne, String.ofList_toList] at hpath
  rw [← hbytes]
  refine path_of_pathOf (fun hfile => ?_) hpath
  change [0x66] <+: pathBytes (front ++ rest) at hfile
  -- the first letter is an s
  cases hchars : front.toList with
  | nil => simp [IsSpelling, hchars] at hfront
  | cons c letters =>
    have hascii := hfront.ascii (by decide +kernel) c (by simp [hchars])
    rw [IsSpelling, hchars, List.map_cons] at hfront
    rw [hbytes, utf8_eq_flatMap, hchars, List.flatMap_cons, utf8EncodeChar_ascii hascii] at hfile
    have hbyte := (List.cons_prefix_cons.1 hfile).1
    rcases Text.eq_of_toLower (y := 'S') (by decide) (List.cons.inj hfront).1 with rfl | rfl
    · exact absurd hbyte (by decide)
    · exact absurd hbyte (by decide)

/-- Two spellings never name the same file. -/
theorem path_ne {front' : String} {l l' : Location} {path path' : String} (hfront : IsSpelling front "sqlite:")
    (hfront' : IsSpelling front' "sqlite:") (hne : front ≠ front') (h : location? (front ++ rest) = some l)
    (h' : location? (front' ++ rest) = some l') (hp : l.path = some path) (hp' : l'.path = some path') :
    path ≠ path' := by
  rintro rfl
  have hlong {front : String} (hfront : IsSpelling front "sqlite:") : 0 < (utf8 front).length := by
    have : (utf8 front).length = byteLength front := rfl
    rw [this, hfront.byteLength_eq (by decide +kernel)]
    decide
  by_cases hsmall : front = "sqlite:"
  · have hshort := length_path_small (hsmall ▸ h) hp
    have := hlong hfront'
    rw [path_other hfront' (hsmall ▸ hne.symm) h' hp', List.length_append] at hshort
    omega
  by_cases hsmall' : front' = "sqlite:"
  · have hshort := length_path_small (hsmall' ▸ h') hp'
    have := hlong hfront
    rw [path_other hfront hsmall h hp, List.length_append] at hshort
    omega
  · have hsame := path_other hfront hsmall h hp
    rw [path_other hfront' hsmall' h' hp'] at hsame
    exact hne (utf8_injective (List.append_cancel_right hsame)).symm

/-! ## Connecting -/

theorem isBlank_of_spelling (hfront : IsSpelling front "sqlite:") (rest : String) :
    Text.isBlank (front ++ rest) = false := by
  rw [Text.isBlank, String.toList_append, List.all_append, Bool.and_eq_false_imp]
  intro hall
  cases hchars : front.toList with
  | nil => simp [IsSpelling, hchars] at hfront
  | cons c letters =>
    rw [IsSpelling, hchars, List.map_cons] at hfront
    have hblank : Text.isBlankChar c = false := by
      rw [← Text.isBlankChar_toLower, (List.cons.inj hfront).1]
      decide
    simp [hchars, hblank] at hall

theorem schemeOf?_spelling (hfront : IsSpelling front "sqlite:") (rest : String) :
    schemeOf? (front ++ rest) = if isBehindScheme rest then some "sqlite" else none :=
  schemeOf?_append "sqlite" (by decide) (by decide) hfront

/-- Of the settings only the size of the pool and the life of a connection matter where a database is found. -/
theorem connectAt_congr {s s' : StoreSettings} (hpool : s.poolBounds = s'.poolBounds)
    (hlife : s.maxLifetime = s'.maxLifetime) (l : Location) (t : Files.Tree) :
    connectAt s l t = connectAt s' l t := by
  unfold connectAt connectMemory connectFile connected
  simp only [hpool, hlife]

/-- With either spelling the connection is refused, or made to the location that the URL names. -/
theorem connect_spelling {s : StoreSettings} (hfront : IsSpelling front "sqlite:")
    (hurl : s.url = front ++ rest) (t : Files.Tree) :
    if isBehindScheme rest = true ∧ s.acquireTimeout ≠ 0 then
      match location? (front ++ rest) with
      | none => ∃ e, connect s t = ⟨.error e, t, []⟩
      | some l => connect s t = connectAt s l t
    else ∃ e, connect s t = ⟨.error e, t, []⟩ := by
  unfold connect
  simp only [hurl, isBlank_of_spelling hfront, schemeOf?_spelling hfront, Bool.false_eq_true, if_false]
  cases isBehindScheme rest with
  | false => simp
  | true =>
    cases location? (front ++ rest) with
    | none => simp
    | some l => by_cases hwait : s.acquireTimeout = 0 <;> simp [hwait]

end Roster.Relational

/-! ## Opening -/

namespace Roster.Opening

open Files Settings Relational

/-- Both openings come to the same: they leave the same tree behind, and both fail or both have the same
store. -/
def Alike (o o' : Opening) : Prop :=
  o.tree = o'.tree ∧ ((∃ e e', o.result = .error e ∧ o'.result = .error e') ∨ o.result = o'.result)

variable {front front' rest : String}

/-- The path of a file is what follows the scheme, however that is spelled. -/
theorem alike_of_embedded (hfront : IsSpelling front embeddedScheme)
    (hfront' : IsSpelling front' embeddedScheme) (s : StoreSettings) (inUse : List Place) (t : Tree) :
    Alike (ofSettings { s with url := front ++ rest } inUse t)
      (ofSettings { s with url := front' ++ rest } inUse t) := by
  unfold ofSettings
  rw [StoreSettings.backend?_embedded rfl hfront, StoreSettings.backend?_embedded rfl hfront']
  by_cases hempty : rest = ""
  · rw [if_pos hempty, if_pos hempty]
    exact ⟨rfl, .inl ⟨_, _, rfl, rfl⟩⟩
  · rw [if_neg hempty, if_neg hempty]
    exact ⟨rfl, .inr rfl⟩

theorem backend?_sqlite (hfront : IsSpelling front "sqlite:") (s : StoreSettings) :
    { s with url := front ++ rest }.backend? = .ok (.relational (front ++ rest)) :=
  StoreSettings.backend?_relational (by decide : "sqlite:" ∈ relationalSchemes)
    (hfront.begins (by decide +kernel) rest)

theorem poolBounds_sqlite (hfront : IsSpelling front "sqlite:") (s : StoreSettings) :
    { s with url := front ++ rest }.poolBounds = (1, 1) := by
  rw [StoreSettings.poolBounds_of_backend (backend?_sqlite hfront s),
    if_pos (hfront.begins (by decide +kernel) rest)]

/-- Two spellings that name the same location open alike. -/
theorem alike_of_location (hfront : IsSpelling front "sqlite:") (hfront' : IsSpelling front' "sqlite:")
    (hl : location? (front ++ rest) = location? (front' ++ rest)) (s : StoreSettings) (inUse : List Place)
    (t : Tree) :
    Alike (ofSettings { s with url := front ++ rest } inUse t)
      (ofSettings { s with url := front' ++ rest } inUse t) := by
  have hc := connect_spelling (s := { s with url := front ++ rest }) hfront rfl t
  have hc' := connect_spelling (s := { s with url := front' ++ rest }) hfront' rfl t
  have hopens : connect { s with url := front ++ rest } t = connect { s with url := front' ++ rest } t ∨
      ∃ e e', connect { s with url := front ++ rest } t = ⟨.error e, t, []⟩ ∧
        connect { s with url := front' ++ rest } t = ⟨.error e', t, []⟩ := by
    by_cases hreach : isBehindScheme rest = true ∧ s.acquireTimeout ≠ 0
    · rw [if_pos hreach] at hc hc'
      rw [← hl] at hc'
      cases hlocation : location? (front ++ rest) with
      | none =>
        simp only [hlocation] at hc hc'
        obtain ⟨e, he⟩ := hc
        obtain ⟨e', he'⟩ := hc'
        exact .inr ⟨e, e', he, he'⟩
      | some l =>
        simp only [hlocation] at hc hc'
        left
        rw [hc, hc']
        exact connectAt_congr ((poolBounds_sqlite hfront s).trans (poolBounds_sqlite hfront' s).symm) rfl l t
    · rw [if_neg hreach] at hc hc'
      obtain ⟨e, he⟩ := hc
      obtain ⟨e', he'⟩ := hc'
      exact .inr ⟨e, e', he, he'⟩
  unfold ofSettings
  simp only [backend?_sqlite hfront, backend?_sqlite hfront', Opening.relational]
  rcases hopens with hsame | ⟨e, e', he, he'⟩
  · rw [hsame]
    exact ⟨rfl, .inr rfl⟩
  · rw [he, he']
    exact ⟨rfl, .inl ⟨_, _, rfl, rfl⟩⟩

/-- What the case of the letters of a scheme decides. For a file of the embedded store it is nothing. For a
database in a file it is not the kind of store nor the pool, and two spellings open alike as far as they
name the same location; but only in small letters is the scheme no part of the path, and no two spellings
name the same file. -/
theorem opening_of_spelling (s : StoreSettings) (rest : String) (inUse : List Place) (t : Tree) :
    (∀ front front', IsSpelling front "redb://" → IsSpelling front' "redb://" →
      (rest ≠ "" → { s with url := front ++ rest }.backend? = .ok (.embedded rest)) ∧
      Alike (ofSettings { s with url := front ++ rest } inUse t)
        (ofSettings { s with url := front' ++ rest } inUse t)) ∧
    ∀ front front', IsSpelling front "sqlite:" → IsSpelling front' "sqlite:" →
      { s with url := front ++ rest }.backend? = .ok (.relational (front ++ rest)) ∧
      { s with url := front ++ rest }.poolBounds = (1, 1) ∧
      (location? (front ++ rest) = location? (front' ++ rest) →
        Alike (ofSettings { s with url := front ++ rest } inUse t)
          (ofSettings { s with url := front' ++ rest } inUse t)) ∧
      ∀ l path, location? (front ++ rest) = some l → l.path = some path →
        (front ≠ "sqlite:" → utf8 path = utf8 front ++ pathBytes rest) ∧
        (front ≠ front' → ∀ l', location? (front' ++ rest) = some l' → l'.path ≠ some path) := by
  refine ⟨fun front front' hfront hfront' => ⟨fun hne => ?_, ?_⟩, fun front front' hfront hfront' => ?_⟩
  · exact (StoreSettings.backend?_embedded rfl hfront).trans (if_neg hne)
  · exact alike_of_embedded hfront hfront' s inUse t
  · refine ⟨backend?_sqlite hfront s, poolBounds_sqlite hfront s, fun hl => ?_, fun l path h hp => ?_⟩
    · exact alike_of_location hfront hfront' hl s inUse t
    · refine ⟨fun hne => path_other hfront hne h hp, fun hne l' h' hp' => ?_⟩
      exact path_ne hfront hfront' hne h h' hp hp' rfl

/-- Capital letters open the same file of an embedded store, and another database. -/
theorem opening_of_capitals :
    Alike (ofSettings { StoreSettings.default with url := "REDB://roster.db?mode=rwc" } [] .empty)
        (ofSettings { StoreSettings.default with url := "redb://roster.db?mode=rwc" } [] .empty) ∧
      { StoreSettings.default with url := "SQLITE:roster.db?mode=rwc" }.poolBounds = (1, 1) ∧
      location? "SQLITE:roster.db?mode=rwc" = some ⟨some "SQLITE:roster.db", false, false, true⟩ ∧
      ∀ l, location? "sqlite:roster.db?mode=rwc" = some l → l.path ≠ some "SQLITE:roster.db" := by
  obtain ⟨hfiles, hdatabases⟩ := opening_of_spelling .default "roster.db?mode=rwc" [] .empty
  have hlocation : location? "SQLITE:roster.db?mode=rwc" =
      some ⟨some "SQLITE:roster.db", false, false, true⟩ := by
    decide +kernel
  obtain ⟨-, hpool, -, hpath⟩ := hdatabases "SQLITE:" "sqlite:" (by decide +kernel) (by decide +kernel)
  refine ⟨(hfiles "REDB://" "redb://" (by decide +kernel) (by decide +kernel)).2, hpool, hlocation, ?_⟩
  exact (hpath _ _ hlocation rfl).2 (by decide)

/-- In capital letters the scheme becomes part of the name of the file that is created. -/
theorem capitals_name_another_file :
    IsSpelling "SQLITE:" "sqlite:" ∧
      ¬ Alike (ofSettings { StoreSettings.default with url := "SQLITE:" ++ "roster.db?mode=rwc" } [] .empty)
        (ofSettings { StoreSettings.default with url := "sqlite:" ++ "roster.db?mode=rwc" } [] .empty) := by
  refine ⟨by decide +kernel, fun h => ?_⟩
  have hplaces := congrArg (fun t : Tree => (t.node? ["roster.db"]).isSome) h.1
  exact absurd hplaces (by decide +kernel)

end Roster.Opening
