import Mathlib.Data.List.TakeWhile
import Roster.Proofs.RecordText

/-!
# Where a record ends

A reader that has come to its end has not looked at what is left: on a longer record it ends at the same
place. So of a record that is cut off somewhere the part before the cut is read as in the whole record, and
what the cut has taken is missed. Nothing but space may stand behind a record.
-/

namespace Roster.Record

variable {s r t : Bytes} {b : UInt8}

/-! ## Longer records -/

theorem skipSpace_append (h : Sign.skipSpace s = b :: r) (t : Bytes) :
    Sign.skipSpace (s ++ t) = b :: (r ++ t) := by
  unfold Sign.skipSpace at *
  rw [List.dropWhile_append, h]
  rfl

theorem readHex_append {n : Nat} (h : readHex s = .ok (n, r)) (t : Bytes) :
    readHex (s ++ t) = .ok (n, r ++ t) := by
  unfold readHex at h
  split at h
  · rename_i a b c d rest
    simp only [List.cons_append, readHex]
    cases hn : fourHex? a b c d with
    | none => rw [hn] at h; cases h
    | some m => rw [hn] at h; cases h; rfl
  · cases h

theorem readNumbered_append {u : Bytes} (h : readNumbered s = .ok (u, r)) (t : Bytes) :
    readNumbered (s ++ t) = .ok (u, r ++ t) := by
  unfold readNumbered at *
  cases hn : readHex s with
  | error f => rw [hn] at h; cases h
  | ok p =>
    obtain ⟨n, rest⟩ := p
    rw [hn] at h
    rw [readHex_append hn]
    simp only [bind, Except.bind] at h ⊢
    split at h
    · cases h
    rename_i htrail
    rw [if_neg htrail]
    split at h
    · rename_i hlead
      cases h
      rw [if_pos hlead]
    rename_i hlead
    rw [if_neg hlead]
    -- the number opens a pair, and the escape of its partner has to follow
    cases rest with
    | nil => cases h
    | cons b rest =>
      simp only [List.cons_append] at h ⊢
      split at h
      · cases h
      rename_i hb
      rw [if_neg hb]
      cases rest with
      | nil => cases h
      | cons b rest =>
        simp only [List.cons_append] at h ⊢
        split at h
        · cases h
        rename_i hb
        rw [if_neg hb]
        cases hlow : readHex rest with
        | error f => rw [hlow] at h; cases h
        | ok p =>
          obtain ⟨low, rest⟩ := p
          rw [hlow] at h
          rw [readHex_append hlow]
          simp only at h ⊢
          split at h
          · rename_i htrail
            obtain ⟨rfl, rfl⟩ := Prod.mk.inj (Except.ok.inj h)
            rw [if_pos htrail]
          · cases h

theorem readEscape_append {u : Bytes} (h : readEscape s = .ok (u, r)) (t : Bytes) :
    readEscape (s ++ t) = .ok (u, r ++ t) := by
  cases s with
  | nil => cases h
  | cons c s =>
    rw [List.cons_append, readEscape]
    rw [readEscape] at h
    split at h
    · rename_i hc
      rw [if_pos hc]
      exact readNumbered_append h t
    · rename_i hc
      rw [if_neg hc]
      cases hs : shortEscape? c with
      | none => rw [hs] at h; cases h
      | some b => rw [hs] at h; cases h; rfl

theorem readChars_append {u : Bytes} (h : readChars s = .ok (u, r)) (t : Bytes) :
    readChars (s ++ t) = .ok (u, r ++ t) := by
  fun_induction readChars s generalizing u r with
  | case1 => cases h
  | case2 s =>
    cases h
    rw [List.cons_append, readChars]
    rfl
  | case3 => cases h
  | case4 => cases h
  | case5 s v r1 he _ w r2 hr _ ih =>
    cases h
    rw [List.cons_append]
    exact readChars_escape (readEscape_append he t) (ih hr)
  | case6 => cases h
  | case7 => cases h
  | case8 b s hq hb hc w r2 hr ih =>
    cases h
    rw [List.cons_append]
    exact readChars_byte hq hb hc (ih hr)

theorem readText_append {x : String} (h : readText s = .ok (x, r)) (t : Bytes) :
    readText (s ++ t) = .ok (x, r ++ t) := by
  unfold readText at *
  cases hc : readChars s with
  | error f => rw [hc] at h; cases h
  | ok p =>
    obtain ⟨u, rest⟩ := p
    rw [hc] at h
    rw [readChars_append hc]
    simp only at h ⊢
    split at h
    · cases h
      rfl
    · cases h

theorem readString_append {x : String} (h : readString s = .ok (x, r)) (t : Bytes) :
    readString (s ++ t) = .ok (x, r ++ t) := by
  unfold readString at *
  cases hs : Sign.skipSpace s with
  | nil => rw [hs] at h; cases h
  | cons b rest =>
    rw [hs] at h
    rw [skipSpace_append hs]
    simp only at h ⊢
    split at h
    · rename_i hb
      rw [if_pos hb]
      exact readText_append h t
    · cases h

/-- `none` says that the list is closed, on the longer record as well. -/
theorem nextItem_append {first : Bool} {o : Option Bytes} (h : nextItem first s = .ok o) (t : Bytes) :
    nextItem first (s ++ t) = .ok (o.map (· ++ t)) := by
  unfold nextItem at *
  cases hs : Sign.skipSpace s with
  | nil => rw [hs] at h; cases h
  | cons b rest =>
    rw [hs] at h
    rw [skipSpace_append hs]
    simp only at h ⊢
    split at h
    · rename_i hb
      cases h
      rw [if_pos hb]
      rfl
    rename_i hb
    rw [if_neg hb]
    split at h
    · rename_i hfirst
      cases h
      rw [if_pos hfirst]
      rfl
    rename_i hfirst
    rw [if_neg hfirst]
    split at h
    · rename_i hcomma
      rw [if_pos hcomma]
      cases hs' : Sign.skipSpace rest with
      | nil => rw [hs'] at h; cases h
      | cons b' rest' =>
        rw [hs'] at h
        rw [skipSpace_append hs']
        simp only at h ⊢
        split at h
        · cases h
        · rename_i hb'
          cases h
          rw [if_neg hb']
          rfl
    · cases h

theorem closeList_append (h : closeList s = .ok r) (t : Bytes) : closeList (s ++ t) = .ok (r ++ t) := by
  unfold closeList at *
  cases hs : Sign.skipSpace s with
  | nil => rw [hs] at h; cases h
  | cons b rest =>
    rw [hs] at h
    rw [skipSpace_append hs]
    simp only at h ⊢
    split at h
    · rename_i hb
      cases h
      rw [if_pos hb]
    · split at h
      · split at h
        · split at h <;> cases h
        · cases h
      · cases h

theorem readItems_append {first : Bool} {l : List String} (h : readItems first s = .ok (l, r)) (t : Bytes) :
    readItems first (s ++ t) = .ok (l, r ++ t) := by
  fun_induction readItems first s generalizing l r with
  | case1 => cases h
  | case2 first s hn =>
    cases h
    exact readItems_end (nextItem_append hn t)
  | case3 => cases h
  | case4 => cases h
  | case5 first s s' hn x s'' hx _ _ ts r' hts ih =>
    cases h
    exact readItems_item (nextItem_append hn t) (readString_append hx t) (ih hts)

theorem readStrings_append {l : List String} (h : readStrings s = .ok (l, r)) (t : Bytes) :
    readStrings (s ++ t) = .ok (l, r ++ t) := by
  unfold readStrings at *
  cases hs : Sign.skipSpace s with
  | nil => rw [hs] at h; cases h
  | cons b rest =>
    rw [hs] at h
    rw [skipSpace_append hs]
    simp only at h ⊢
    split at h
    · rename_i hb
      rw [if_pos hb]
      cases hi : readItems true rest with
      | error f => rw [hi] at h; cases h
      | ok p =>
        obtain ⟨ts, rest'⟩ := p
        rw [hi] at h
        rw [readItems_append hi]
        simp only at h ⊢
        cases hc : closeList rest' with
        | error f => rw [hc] at h; cases h
        | ok rest'' =>
          rw [hc] at h
          rw [closeList_append hc]
          cases h
          rfl
    · cases h

theorem nextKey_append {first : Bool} {o : Option (String × Bytes)} (h : nextKey first s = .ok o) (t : Bytes) :
    nextKey first (s ++ t) = .ok (o.map fun p => (p.1, p.2 ++ t)) := by
  -- the key, once its opening quote has been passed
  have hkey : ∀ {rest : Bytes} {o : Option (String × Bytes)}, (readText rest).map some = .ok o →
      (readText (rest ++ t)).map some = .ok (o.map fun p => (p.1, p.2 ++ t)) := by
    intro rest o ho
    cases hx : readText rest with
    | error f => rw [hx] at ho; cases ho
    | ok p =>
      obtain ⟨x, rest'⟩ := p
      rw [hx] at ho
      rw [readText_append hx]
      cases ho
      rfl
  unfold nextKey at *
  cases hs : Sign.skipSpace s with
  | nil => rw [hs] at h; cases h
  | cons b rest =>
    rw [hs] at h
    rw [skipSpace_append hs]
    simp only at h ⊢
    split at h
    · rename_i hb
      cases h
      rw [if_pos hb]
      rfl
    rename_i hb
    rw [if_neg hb]
    split at h
    · rename_i hfirst
      rw [if_pos hfirst]
      split at h
      · rename_i hq
        rw [if_pos hq]
        exact hkey h
      · cases h
    rename_i hfirst
    rw [if_neg hfirst]
    split at h
    · rename_i hcomma
      rw [if_pos hcomma]
      cases hs' : Sign.skipSpace rest with
      | nil => rw [hs'] at h; cases h
      | cons b' rest' =>
        rw [hs'] at h
        rw [skipSpace_append hs']
        simp only at h ⊢
        split at h
        · rename_i hq
          rw [if_pos hq]
          exact hkey h
        · split at h <;> cases h
    · cases h

theorem nextKey_length {first : Bool} {key : String} (h : nextKey first s = .ok (some (key, r))) :
    r.length < s.length := by
  have hkey : ∀ {rest : Bytes}, (readText rest).map some = .ok (some (key, r)) → r.length < rest.length := by
    intro rest ho
    cases hx : readText rest with
    | error f => rw [hx] at ho; cases ho
    | ok p =>
      rw [hx] at ho
      cases ho
      exact readText_length hx
  unfold nextKey at h
  have hs := skipSpace_length s
  split at h
  · cases h
  · rename_i b rest hr
    rw [hr, List.length_cons] at hs
    split at h
    · cases h
    split at h
    · split at h
      · have := hkey h
        omega
      · cases h
    split at h
    · have hs' := skipSpace_length rest
      split at h
      · cases h
      · rename_i b' rest' hr'
        rw [hr', List.length_cons] at hs'
        split at h
        · have := hkey h
          omega
        · split at h <;> cases h
    · cases h

theorem skipColon_append (h : skipColon s = .ok r) (t : Bytes) : skipColon (s ++ t) = .ok (r ++ t) := by
  unfold skipColon at *
  cases hs : Sign.skipSpace s with
  | nil => rw [hs] at h; cases h
  | cons b rest =>
    rw [hs] at h
    rw [skipSpace_append hs]
    simp only at h ⊢
    split at h
    · rename_i hb
      cases h
      rw [if_pos hb]
    · cases h

/-- Only a member that means nothing to a user may run on with the record: a number, for instance. -/
theorem readMember_append {m m' : Members} {f : Field} (h : readMember m (some f) s = .ok (m', r)) (t : Bytes) :
    readMember m (some f) (s ++ t) = .ok (m', r ++ t) := by
  cases f with
  | email =>
    cases hx : readString s with
    | error e => rw [readMember, hx] at h; cases h
    | ok p =>
      rw [readMember, hx] at h
      rw [readMember, readString_append hx]
      cases h
      rfl
  | fullName =>
    cases hx : readString s with
    | error e => rw [readMember, hx] at h; cases h
    | ok p =>
      rw [readMember, hx] at h
      rw [readMember, readString_append hx]
      cases h
      rfl
  | roles =>
    cases hx : readStrings s with
    | error e => rw [readMember, hx] at h; cases h
    | ok p =>
      rw [readMember, hx] at h
      rw [readMember, readStrings_append hx]
      cases h
      rfl

/-! ## Records that are cut off -/

section Cut

variable {p w rest : Bytes} {first : Bool} {m m' : Members} {key : String} {f : Field} {fuel : Nat}

/-- The cut falls into the next member, or this is read as in the whole record and the cut is further on. -/
theorem readMembers_cut (hk : nextKey first s = .ok (some (key, Sign.colon :: (w ++ rest))))
    (hf : field? key = some f) (hm : m.has f = false) (hv : readMember m (some f) (w ++ rest) = .ok (m', rest))
    (hp : p ++ t = s) (hfuel : p.length < fuel)
    (hrest : ∀ {q fuel'}, q ++ t = rest → q.length < fuel' → ∃ e, readMembers fuel' false m' q = .error e) :
    ∃ e, readMembers fuel first m p = .error e := by
  obtain ⟨fuel, rfl⟩ : ∃ n, fuel = n + 1 := ⟨fuel - 1, by omega⟩
  cases hkey : nextKey first p with
  | error e => exact ⟨e, by rw [readMembers, hkey]⟩
  | ok o =>
    -- the cut leaves the key alone
    have hwhole := nextKey_append hkey t
    rw [hp, hk] at hwhole
    cases o with
    | none => cases hwhole
    | some q =>
      obtain ⟨key', q⟩ := q
      simp only [Option.map_some, Except.ok.injEq, Option.some.injEq, Prod.mk.injEq] at hwhole
      obtain ⟨rfl, hq⟩ := hwhole
      cases hcolon : skipColon q with
      | error e => exact ⟨e, by rw [readMembers, hkey]; simp [hf, hm, hcolon]⟩
      | ok q' =>
        have hwhole := skipColon_append hcolon t
        rw [← hq, skipColon_written] at hwhole
        have hvalue : w ++ rest = q' ++ t := Except.ok.inj hwhole
        cases hmember : readMember m (some f) q' with
        | error e => exact ⟨e, by rw [readMembers, hkey]; simp [hf, hm, hcolon, hmember]⟩
        | ok q'' =>
          obtain ⟨m'', q''⟩ := q''
          have hwhole := readMember_append hmember t
          rw [← hvalue, hv] at hwhole
          cases hwhole
          have hfuel' : q''.length < fuel := by
            have hwhole := congrArg List.length hp
            have hlen := nextKey_length hk
            simp only [List.length_append, List.length_cons] at hwhole hlen
            omega
          obtain ⟨e, he⟩ := hrest rfl hfuel'
          exact ⟨e, by rw [readMembers, hkey]; simp [hf, hm, hcolon, hmember, he]⟩

/-- The members end at the closing byte, which has been cut off. -/
theorem readMembers_cut_end (hp : p ++ t = [Sign.objectClose]) (ht : t ≠ []) (hfuel : p.length < fuel) :
    ∃ e, readMembers fuel false m p = .error e := by
  obtain ⟨fuel, rfl⟩ : ∃ n, fuel = n + 1 := ⟨fuel - 1, by omega⟩
  cases p with
  | nil => exact ⟨.onNext .endInObject [], rfl⟩
  | cons b p =>
    obtain ⟨-, hnil⟩ := List.cons.inj hp
    exact absurd (List.append_eq_nil_iff.1 hnil).2 ht

/-- A record cannot be read once it has been cut off. -/
theorem readUser_cut {u : User} (hp : p ++ t = encode u) (ht : t ≠ []) : ∃ e, readUser p = .error e := by
  have hemail : field? "email" = some .email := by decide
  have hname : field? "full_name" = some .fullName := by decide
  have hroles : field? "roles" = some .roles := by decide
  have hne : Sign.objectOpen ≠ Sign.listOpen := by decide
  rw [← List.append_nil (encode u), encode_append] at hp
  cases p with
  | nil => exact ⟨.onNext .endInValue [], rfl⟩
  | cons b p =>
    obtain ⟨hb, hinner⟩ := List.cons.inj hp
    subst hb
    suffices hmembers : ∃ e, readMembers (p.length + 1) true .none p = .error e by
      obtain ⟨e, he⟩ := hmembers
      exact ⟨e, by rw [readUser, skipSpace_cons (by decide)]; simp [hne, readObject, he]⟩
    -- the cut may fall into any member, or behind the last
    refine readMembers_cut (nextKey_first _ _) hemail rfl (readMember_email _ _ _) hinner p.length.lt_succ_self ?_
    intro p₁ fuel₁ hp₁ hfuel₁
    refine readMembers_cut (nextKey_more _ _) hname rfl (readMember_fullName _ _ _) hp₁ hfuel₁ ?_
    intro p₂ fuel₂ hp₂ hfuel₂
    refine readMembers_cut (nextKey_more _ _) hroles rfl (readMember_roles _ _ _) hp₂ hfuel₂ ?_
    intro p₃ fuel₃ hp₃ hfuel₃
    exact readMembers_cut_end hp₃ ht hfuel₃

end Cut

/-! ## Records that run on -/

/-- Behind a record something that is no space is refused. -/
theorem decode_encode_append (u : User) (hs : ∃ b ∈ s, Sign.isSpace b = false) :
    ∃ e, decode (encode u ++ s) = .error e := by
  obtain ⟨b, hmem, hb⟩ := hs
  have hrest : Sign.skipSpace s ≠ [] := by
    intro hnil
    have hall := List.dropWhile_eq_nil_iff.1 hnil b hmem
    rw [hb] at hall
    cases hall
  obtain ⟨b', rest, hrest⟩ := List.exists_cons_of_ne_nil hrest
  refine ⟨.onNext .trailingCharacters (b' :: rest), ?_⟩
  rw [decode, readUser_encode]
  simp only [hrest]

theorem decode_cut {u : User} {p : Bytes} (hp : p <+: encode u) (hne : p ≠ encode u) :
    ∃ e, decode p = .error e := by
  obtain ⟨t, ht⟩ := hp
  have hcut : t ≠ [] := by
    rintro rfl
    rw [List.append_nil] at ht
    exact hne ht
  obtain ⟨e, he⟩ := readUser_cut ht hcut
  exact ⟨e, by rw [decode, he]⟩

/-- A record is not the beginning of another. -/
theorem encode_prefix_free {u v : User} (h : encode u <+: encode v) : u = v := by
  by_contra hne
  obtain ⟨e, he⟩ := decode_cut h fun heq => hne (encode_injective heq)
  rw [decode_encode] at he
  cases he

end Roster.Record

namespace Roster.Embedded

open Record

/-- A record that has lost its end, or behind which something has been left, is not taken for a user: reading
it is a failure of the store, under whatever key it is kept. So no record is the beginning of another. -/
theorem damaged_tail_detected :
    (∀ key u p, p <+: encode u → p ≠ encode u →
      ∃ message, Operation.decodeUser key p = .fail (.serialization key message)) ∧
    (∀ key u s, (∃ b ∈ s, Sign.isSpace b = false) →
      ∃ message, Operation.decodeUser key (encode u ++ s) = .fail (.serialization key message)) ∧
    ∀ u v, encode u <+: encode v → u = v := by
  have hfail : ∀ {key : String} {record : Bytes}, (∃ e, decode record = .error e) →
      ∃ message, Operation.decodeUser key record = .fail (.serialization key message) := by
    rintro key record ⟨e, he⟩
    exact ⟨e.message record, by rw [Operation.decodeUser, he]⟩
  refine ⟨fun key u p hp hne => hfail (decode_cut hp hne), fun key u s hs => hfail (decode_encode_append u hs), ?_⟩
  exact fun u v => encode_prefix_free

/-- For instance a record that is cut within an escape, and one behind which a brace has been left. -/
theorem damaged_tail_detected_of_odd_texts :
    let u : User := ⟨"a\"\x7d", "é", ["]"]⟩
    let p := (encode u).take 12
    (p <+: encode u ∧ p ≠ encode u ∧ p.getLast? = some Sign.backslash ∧
      ∃ message, Operation.decodeUser "a" p = .fail (.serialization "a" message)) ∧
    (∃ b ∈ [0x20, Sign.objectClose], Sign.isSpace b = false) ∧
      ∃ message, Operation.decodeUser "a" (encode u ++ [0x20, Sign.objectClose]) =
        .fail (.serialization "a" message) := by
  intro u p
  obtain ⟨hcut, hmore, -⟩ := damaged_tail_detected
  have hbegins : p <+: encode u := List.take_prefix ..
  have hne : p ≠ encode u := by decide
  have hbrace : ∃ b ∈ [0x20, Sign.objectClose], Sign.isSpace b = false := by decide
  exact ⟨⟨hbegins, hne, by decide, hcut "a" u p hbegins hne⟩, hbrace, hmore "a" u _ hbrace⟩

end Roster.Embedded
