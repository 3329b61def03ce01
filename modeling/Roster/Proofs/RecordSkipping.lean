import Mathlib.Tactic.Tauto
import Roster.Proofs.RecordGrammar

/-!
# Values are passed over

Whatever a value is, and however deep it is nested, the reader that passes over it comes to its end and not
beyond: signs within strings do not lead it astray. The proof follows the grammar. A number ends where nothing
follows with which it could go on, so it is read together with what follows.
-/

namespace Roster.Record

variable {s w r rest : Bytes} {b : UInt8}

/-! ## Space -/

theorem skipSpace_blank (hw : IsBlank w) (s : Bytes) : Sign.skipSpace (w ++ s) = Sign.skipSpace s := by
  induction w with
  | nil => rfl
  | cons b w ih =>
    have hb := hw b List.mem_cons_self
    rw [Sign.skipSpace, List.cons_append, List.dropWhile_cons_of_pos hb, ← Sign.skipSpace]
    exact ih fun x hx => hw x (List.mem_cons_of_mem _ hx)

/-- Space passed, a sign stands next. -/
theorem skipSpace_blank_cons (hw : IsBlank w) (hb : Sign.isSpace b = false) (s : Bytes) :
    Sign.skipSpace (w ++ b :: s) = b :: s := by
  rw [skipSpace_blank hw, skipSpace_cons hb]

/-! ## Numbers -/

/-- No number goes on here. -/
def Stops (s : Bytes) : Prop :=
  ∀ b r, s = b :: r → Sign.isDigit b = false ∧ b ≠ Sign.point ∧ b ≠ Sign.letterE ∧ b ≠ Sign.capitalE

theorem startsWithDigit_of_stops (h : Stops s) : startsWithDigit s = false := by
  cases s with
  | nil => rfl
  | cons b s => exact (h b s rfl).1

theorem skipDigits_append {d : Bytes} (hd : AreDigits d) (hs : startsWithDigit s = false) :
    skipDigits (d ++ s) = s := by
  induction d with
  | nil =>
    cases s with
    | nil => rfl
    | cons b s =>
      rw [startsWithDigit] at hs
      rw [List.nil_append, skipDigits, List.dropWhile_cons_of_neg (by simp [hs])]
  | cons b d ih =>
    rw [skipDigits, List.cons_append, List.dropWhile_cons_of_pos (hd b List.mem_cons_self), ← skipDigits]
    exact ih fun x hx => hd x (List.mem_cons_of_mem _ hx)

theorem skipExponent_spelled {sign d : Bytes} (hsign : sign = [] ∨ sign = [Sign.plus] ∨ sign = [Sign.minus])
    (hne : d ≠ []) (hd : AreDigits d) (hr : Stops rest) : skipExponent (sign ++ (d ++ rest)) = .ok rest := by
  obtain ⟨b, d, rfl⟩ := List.exists_cons_of_ne_nil hne
  have hb := hd b List.mem_cons_self
  have hskip : skipDigits (d ++ rest) = rest :=
    skipDigits_append (fun x hx => hd x (List.mem_cons_of_mem _ hx)) (startsWithDigit_of_stops hr)
  -- the first digit is no sign
  have hplus : b ≠ Sign.plus := by rintro rfl; cases hb
  have hminus : b ≠ Sign.minus := by rintro rfl; cases hb
  rcases hsign with rfl | rfl | rfl <;> simp [skipExponent, hplus, hminus, hb, hskip]

theorem skipExponent?_spelled {e : Bytes} (he : Exponent e) (hr : Stops rest) :
    skipExponent? (e ++ rest) = .ok rest := by
  cases he with
  | none =>
    cases rest with
    | nil => rfl
    | cons b rest =>
      obtain ⟨-, -, he, hE⟩ := hr b rest rfl
      simp [skipExponent?, he, hE]
  | digits hletter hsign hne hd =>
    rw [List.cons_append, List.append_assoc, skipExponent?, if_pos hletter]
    exact skipExponent_spelled hsign hne hd hr

theorem startsWithDigit_exponent {e : Bytes} (he : Exponent e) (hr : Stops rest) :
    startsWithDigit (e ++ rest) = false := by
  cases he with
  | none => exact startsWithDigit_of_stops hr
  | digits hletter =>
    rcases hletter with rfl | rfl <;> rfl

theorem skipFraction_spelled {f e : Bytes} (hf : Fraction f) (he : Exponent e) (hr : Stops rest) :
    skipFraction (f ++ (e ++ rest)) = .ok rest := by
  cases hf with
  | none =>
    have hexponent := skipExponent?_spelled he hr
    cases hs : e ++ rest with
    | nil =>
      rw [hs] at hexponent
      exact hexponent
    | cons b s =>
      have hpoint : b ≠ Sign.point := by
        cases he with
        | none => exact (hr b s hs).2.1
        | digits hletter =>
          obtain ⟨rfl, -⟩ := List.cons.inj hs
          rcases hletter with rfl | rfl <;> decide
      rw [List.nil_append, skipFraction, if_neg hpoint, ← hs]
      exact hexponent
  | @digits d hne hd =>
    obtain ⟨b, d', rfl⟩ := List.exists_cons_of_ne_nil hne
    have hstart : startsWithDigit (b :: d' ++ (e ++ rest)) = true := hd b List.mem_cons_self
    rw [List.cons_append, skipFraction, if_pos rfl, if_pos hstart,
      skipDigits_append hd (startsWithDigit_exponent he hr)]
    exact skipExponent?_spelled he hr

theorem startsWithDigit_fraction {f e : Bytes} (hf : Fraction f) (he : Exponent e) (hr : Stops rest) :
    startsWithDigit (f ++ (e ++ rest)) = false := by
  cases hf with
  | none =>
    rw [List.nil_append]
    exact startsWithDigit_exponent he hr
  | digits => rfl

theorem skipNumber_spelled {d f e : Bytes} (hd : Whole d) (hf : Fraction f) (he : Exponent e) (hr : Stops rest) :
    skipNumber (d ++ (f ++ (e ++ rest))) = .ok rest := by
  have hstart := startsWithDigit_fraction hf he hr
  cases hd with
  | zero =>
    rw [List.cons_append, List.nil_append, skipNumber, if_pos rfl, if_neg (by simp [hstart])]
    exact skipFraction_spelled hf he hr
  | digits hb hne hd =>
    rw [List.cons_append, skipNumber, if_neg hne, if_pos hb, skipDigits_append hd hstart]
    exact skipFraction_spelled hf he hr

/-! ## Scalars -/

/-- The byte opens a value. -/
def Opens (b : UInt8) : Prop :=
  Sign.isSpace b = false ∧ b ≠ Sign.comma ∧ b ≠ Sign.listClose ∧ b ≠ Sign.objectClose

instance (b : UInt8) : Decidable (Opens b) := inferInstanceAs (Decidable (_ ∧ _))

/-- A text that opens like a value without brackets, and that is passed over as one. -/
def IsScalar (s : Bytes) : Prop :=
  ∃ b r, s = b :: r ∧ Opens b ∧ b ≠ Sign.listOpen ∧ b ≠ Sign.objectOpen ∧
    ∀ rest, Stops rest → skipScalar b (r ++ rest) = .ok rest

theorem skipWord_append (word rest : Bytes) : skipWord word (word ++ rest) = .ok rest := by
  induction word with
  | nil => rfl
  | cons b word ih => rw [List.cons_append, skipWord, if_pos rfl, ih]

theorem isScalar_inQuotes (h : StringBody s) : IsScalar (inQuotes s) := by
  refine ⟨Sign.quote, s ++ [Sign.quote], rfl, by decide, by decide, by decide, fun rest _ => ?_⟩
  rw [List.append_assoc]
  exact skipText_body h rest

theorem isDigit_opens (hb : Sign.isDigit b = true) : Opens b ∧ b ≠ Sign.listOpen ∧ b ≠ Sign.objectOpen := by
  have hne : ∀ x, Sign.isDigit x = false → b ≠ x := by
    rintro x hx rfl
    rw [hb] at hx
    cases hx
  refine ⟨⟨?_, hne _ rfl, hne _ rfl, hne _ rfl⟩, hne _ rfl, hne _ rfl⟩
  simp [Sign.isSpace, hne 0x20 rfl, hne 0x09 rfl, hne 0x0A rfl, hne 0x0D rfl]

theorem skipScalar_digit (hb : Sign.isDigit b = true) : skipScalar b s = skipNumber (b :: s) := by
  have hne : ∀ x, Sign.isDigit x = false → b ≠ x := by
    rintro x hx rfl
    rw [hb] at hx
    cases hx
  simp [skipScalar, hne Sign.letterN rfl, hne Sign.letterT rfl, hne Sign.letterF rfl, hne Sign.minus rfl, hb]

theorem Whole.opens (h : Whole s) : ∃ b r, s = b :: r ∧ Sign.isDigit b = true := by
  cases h with
  | zero => exact ⟨_, _, rfl, rfl⟩
  | digits hb => exact ⟨_, _, rfl, hb⟩

theorem Numeral.opens (h : Numeral s) : ∃ b r, s = b :: r ∧ (Sign.isDigit b = true ∨ b = Sign.minus) := by
  cases h with
  | parts hsign hd =>
    obtain ⟨b, r, rfl, hb⟩ := hd.opens
    rcases hsign with rfl | rfl
    · exact ⟨b, _, rfl, .inl hb⟩
    · exact ⟨Sign.minus, _, rfl, .inr rfl⟩

theorem isScalar_number (h : Numeral s) : IsScalar s := by
  cases h with
  | @parts sign d f e hsign hd hf he =>
    have hskip : ∀ rest, Stops rest → skipNumber ((d ++ (f ++ e)) ++ rest) = .ok rest := by
      intro rest hr
      simp only [List.append_assoc]
      exact skipNumber_spelled hd hf he hr
    rcases hsign with rfl | rfl
    · obtain ⟨b, d', rfl, hb⟩ := hd.opens
      obtain ⟨hopens, hlist, hobject⟩ := isDigit_opens hb
      refine ⟨b, d' ++ (f ++ e), rfl, hopens, hlist, hobject, fun rest hr => ?_⟩
      rw [skipScalar_digit hb]
      exact hskip rest hr
    · exact ⟨Sign.minus, d ++ (f ++ e), rfl, by decide, by decide, by decide, hskip⟩

/-! ## Steps inside brackets -/

theorem skipKey_spelled {k w' : Bytes} (hw : IsBlank w) (hk : StringBody k) (hw' : IsBlank w') (rest : Bytes) :
    skipKey (w ++ (inQuotes k ++ (w' ++ Sign.colon :: rest))) = .ok rest := by
  have hquote : Sign.skipSpace (w ++ (inQuotes k ++ (w' ++ Sign.colon :: rest))) =
      Sign.quote :: (k ++ Sign.quote :: (w' ++ Sign.colon :: rest)) := by
    rw [inQuotes, List.cons_append, List.append_assoc, List.singleton_append]
    exact skipSpace_blank_cons hw rfl _
  rw [skipKey, hquote]
  simp only [if_true, skipText_body hk, skipSpace_blank_cons hw' (b := Sign.colon) rfl]

section Steps

variable {first : Bool} {frame : Frame} {frames : List Frame}

/-- What is done where a value is expected, by its first byte. -/
theorem skipWithin_value (h : Sign.skipSpace s = b :: r) :
    skipWithin .value frames s =
      if b = Sign.listOpen then skipWithin (.item true) (.list :: frames) r
      else if b = Sign.objectOpen then skipWithin (.item true) (.object :: frames) r
      else
        match skipScalar b r with
        | .error f => .error f
        | .ok rest => skipWithin (.item false) frames rest := by
  conv => lhs; rw [skipWithin]
  split
  · rename_i hs
    rw [h] at hs
    cases hs
  · rename_i b' r' hs
    rw [h] at hs
    obtain ⟨rfl, rfl⟩ := List.cons.inj hs
    split
    · rfl
    split
    · rfl
    split
    · rename_i f hf
      rw [hf]
    · rename_i rest hrest
      simp only [hrest]

/-- What is done behind an item, or before the first, by the byte that comes next. -/
theorem skipWithin_item (h : Sign.skipSpace s = b :: r) :
    skipWithin (.item first) (frame :: frames) s =
      if b = Sign.comma ∧ first = false then
        match frame with
        | .list => skipWithin .value (.list :: frames) r
        | .object =>
          match skipKey r with
          | .error f => .error f
          | .ok rest => skipWithin .value (.object :: frames) rest
      else if b = frame.close then skipWithin (.item false) frames r
      else if first = false then .error (.onNext frame.commaExpected (b :: r))
      else
        match frame with
        | .list => skipWithin .value (.list :: frames) (b :: r)
        | .object =>
          match skipKey (b :: r) with
          | .error f => .error f
          | .ok rest => skipWithin .value (.object :: frames) rest := by
  conv => lhs; rw [skipWithin]
  split
  · rename_i hs
    rw [h] at hs
    cases hs
  · rename_i b' r' hs
    rw [h] at hs
    obtain ⟨rfl, rfl⟩ := List.cons.inj hs
    split
    · cases frame with
      | list => rfl
      | object =>
        simp only
        split
        · rename_i f hf
          rw [hf]
        · rename_i rest hrest
          simp only [hrest]
    split
    · rfl
    split
    · rfl
    · cases frame with
      | list => rfl
      | object =>
        simp only
        split
        · rename_i f hf
          rw [hf]
        · rename_i rest hrest
          simp only [hrest]

theorem skipWithin_close (h : Sign.skipSpace s = frame.close :: r) :
    skipWithin (.item first) (frame :: frames) s = skipWithin (.item false) frames r := by
  have hne : frame.close ≠ Sign.comma := by cases frame <;> decide
  rw [skipWithin_item h, if_neg (fun h => hne h.1), if_pos rfl]

/-- Before an item, commas and space are passed. -/
theorem skipWithin_separator_list (hw : Separator first w) (hb : Opens b) (r : Bytes) :
    ∃ w', IsBlank w' ∧ skipWithin (.item first) (.list :: frames) (w ++ b :: r) =
      skipWithin .value (.list :: frames) (w' ++ b :: r) := by
  obtain ⟨hspace, -, hclose, -⟩ := hb
  cases hw with
  | first hw =>
    refine ⟨[], isBlank_nil, ?_⟩
    rw [skipWithin_item (skipSpace_blank_cons hw hspace r), if_neg (fun h => Bool.noConfusion h.2),
      if_neg (by exact hclose), if_neg Bool.noConfusion]
    rfl
  | @comma w w' hw hw' =>
    refine ⟨w', hw', ?_⟩
    rw [List.append_assoc, List.cons_append, skipWithin_item (skipSpace_blank_cons hw rfl _), if_pos ⟨rfl, rfl⟩]

/-- Before a value, the key and the colon are passed too. -/
theorem skipWithin_separator_object {k w' : Bytes} (hw : Separator first w) (hk : StringBody k) (hw' : IsBlank w')
    (rest : Bytes) :
    skipWithin (.item first) (.object :: frames) (w ++ (inQuotes k ++ (w' ++ Sign.colon :: rest))) =
      skipWithin .value (.object :: frames) rest := by
  cases hw with
  | first hw =>
    have hquote : Sign.skipSpace (w ++ (inQuotes k ++ (w' ++ Sign.colon :: rest))) =
        Sign.quote :: (k ++ [Sign.quote] ++ (w' ++ Sign.colon :: rest)) := skipSpace_blank_cons hw rfl _
    have hkey : skipKey (Sign.quote :: (k ++ [Sign.quote] ++ (w' ++ Sign.colon :: rest))) = .ok rest :=
      skipKey_spelled isBlank_nil hk hw' rest
    have hne : Sign.quote ≠ Frame.object.close := by decide
    rw [skipWithin_item hquote, if_neg (fun h => Bool.noConfusion h.2), if_neg hne, if_neg Bool.noConfusion]
    simp only [hkey]
  | comma hw hw'' =>
    rw [List.append_assoc, List.cons_append, skipWithin_item (skipSpace_blank_cons hw rfl _), if_pos ⟨rfl, rfl⟩]
    simp only [skipKey_spelled hw'' hk hw']

end Steps

/-! ## Values of any depth -/

theorem stops_blank {x : UInt8} (hw : IsBlank w) (hx : x = Sign.comma ∨ x = Sign.listClose ∨ x = Sign.objectClose)
    (s : Bytes) : Stops (w ++ x :: s) := by
  intro b r hs
  cases w with
  | nil =>
    obtain ⟨rfl, -⟩ := List.cons.inj hs
    rcases hx with rfl | rfl | rfl <;> decide
  | cons b' w =>
    obtain ⟨rfl, -⟩ := List.cons.inj hs
    have hspace := hw b' List.mem_cons_self
    simp only [Sign.isSpace, Bool.or_eq_true, beq_iff_eq] at hspace
    rcases hspace with ((rfl | rfl) | rfl) | rfl <;> decide

/-- Behind an item no number goes on. -/
theorem stops_items {l : List Json} (h : Spells (.items false l) s) (rest : Bytes) :
    Stops (s ++ Sign.listClose :: rest) := by
  cases h with
  | noItem hw => exact stops_blank hw (by simp) _
  | item hsep =>
    cases hsep with
    | comma hw =>
      simp only [List.append_assoc, List.cons_append]
      exact stops_blank hw (by simp) _

theorem stops_members {l : List (String × Json)} (h : Spells (.members false l) s) (rest : Bytes) :
    Stops (s ++ Sign.objectClose :: rest) := by
  cases h with
  | noMember hw => exact stops_blank hw (by simp) _
  | member hsep =>
    cases hsep with
    | comma hw =>
      simp only [List.append_assoc, List.cons_append]
      exact stops_blank hw (by simp) _

/-- Strings and lists are told by how they open. -/
theorem Spells.opens {v : Json} (h : Spells (.value v) s) :
    ∃ b r, s = b :: r ∧ Opens b ∧ (b = Sign.quote → v.IsString) ∧ (b = Sign.listOpen → v.IsList) := by
  cases h with
  | null => exact ⟨_, _, rfl, by decide, fun h => absurd h (by decide), fun h => absurd h (by decide)⟩
  | yes => exact ⟨_, _, rfl, by decide, fun h => absurd h (by decide), fun h => absurd h (by decide)⟩
  | no => exact ⟨_, _, rfl, by decide, fun h => absurd h (by decide), fun h => absurd h (by decide)⟩
  | number h =>
    obtain ⟨b, r, rfl, hb⟩ := h.opens
    refine ⟨b, r, rfl, ?_, ?_, ?_⟩
    · rcases hb with hb | rfl
      · exact (isDigit_opens hb).1
      · decide
    · rintro rfl
      exact absurd hb (by decide)
    · rintro rfl
      exact absurd hb (by decide)
  | text => exact ⟨_, _, rfl, by decide, fun _ => trivial, fun h => absurd h (by decide)⟩
  | string => exact ⟨_, _, rfl, by decide, fun _ => trivial, fun h => absurd h (by decide)⟩
  | list => exact ⟨_, _, rfl, by decide, fun h => absurd h (by decide), fun _ => trivial⟩
  | object => exact ⟨_, _, rfl, by decide, fun h => absurd h (by decide), fun h => absurd h (by decide)⟩

/-- The part is passed over, whatever brackets are open around it. -/
def Passed : Part → Bytes → Prop
  | .value _, s => ∀ frames w rest, IsBlank w → Stops rest →
    skipWithin .value frames (w ++ (s ++ rest)) = skipWithin (.item false) frames rest
  | .items first _, s => ∀ frames rest,
    skipWithin (.item first) (.list :: frames) (s ++ Sign.listClose :: rest) = skipWithin (.item false) frames rest
  | .members first _, s => ∀ frames rest,
    skipWithin (.item first) (.object :: frames) (s ++ Sign.objectClose :: rest) = skipWithin (.item false) frames rest

theorem IsScalar.passed {v : Json} (h : IsScalar s) : Passed (.value v) s := by
  obtain ⟨b, r, rfl, hb, hlist, hobject, hscalar⟩ := h
  intro frames w rest hw hr
  have hopen : Sign.skipSpace (w ++ (b :: r ++ rest)) = b :: (r ++ rest) := skipSpace_blank_cons hw hb.1 _
  rw [skipWithin_value hopen, if_neg hlist, if_neg hobject]
  simp only [hscalar rest hr]

theorem isScalar_word {c : UInt8} {word : Bytes} (hs : s = c :: word) (hc : Opens c) (hlist : c ≠ Sign.listOpen)
    (hobject : c ≠ Sign.objectOpen) (hskip : ∀ rest, skipScalar c rest = skipWord word rest) : IsScalar s := by
  refine ⟨c, word, hs, hc, hlist, hobject, fun rest _ => ?_⟩
  rw [hskip]
  exact skipWord_append word rest

/-- By the grammar: what stands inside brackets is passed over with one bracket more on the stack. -/
theorem Spells.passed {part : Part} (h : Spells part s) : Passed part s := by
  induction h with
  | null => exact (isScalar_word (c := Sign.letterN) rfl (by decide) (by decide) (by decide) fun _ => rfl).passed
  | yes => exact (isScalar_word (c := Sign.letterT) rfl (by decide) (by decide) (by decide) fun _ => rfl).passed
  | no => exact (isScalar_word (c := Sign.letterF) rfl (by decide) (by decide) (by decide) fun _ => rfl).passed
  | number h => exact (isScalar_number h).passed
  | text h => exact (isScalar_inQuotes h.stringBody).passed
  | string h => exact (isScalar_inQuotes h).passed
  | list _ ih =>
    intro frames w rest hw _
    rw [List.cons_append, List.append_assoc, skipWithin_value (skipSpace_blank_cons hw rfl _), if_pos rfl]
    exact ih frames rest
  | object _ ih =>
    intro frames w rest hw _
    have hne : Sign.objectOpen ≠ Sign.listOpen := by decide
    rw [List.cons_append, List.append_assoc, skipWithin_value (skipSpace_blank_cons hw rfl _), if_neg hne, if_pos rfl]
    exact ih frames rest
  | noItem hw =>
    intro frames rest
    exact skipWithin_close (skipSpace_blank_cons hw rfl _)
  | @item first w s s' v l hsep hv hl ihv ihl =>
    intro frames rest
    obtain ⟨b, r, rfl, hb, -⟩ := hv.opens
    obtain ⟨w', hw', hstep⟩ : ∃ w', IsBlank w' ∧
        skipWithin (.item first) (.list :: frames) (w ++ b :: (r ++ (s' ++ Sign.listClose :: rest))) =
          skipWithin .value (.list :: frames) (w' ++ b :: (r ++ (s' ++ Sign.listClose :: rest))) :=
      skipWithin_separator_list hsep hb _
    simp only [List.append_assoc, List.cons_append]
    rw [hstep]
    exact (ihv _ w' _ hw' (stops_items hl rest)).trans (ihl frames rest)
  | noMember hw =>
    intro frames rest
    exact skipWithin_close (skipSpace_blank_cons hw rfl _)
  | member hsep hk hw' hw'' hv hl ihv ihl =>
    intro frames rest
    simp only [List.append_assoc, List.cons_append]
    rw [skipWithin_separator_object hsep hk.stringBody hw']
    exact (ihv _ _ _ hw'' (stops_members hl rest)).trans (ihl frames rest)

/-- A value is passed over up to what follows it. -/
theorem skipValue_spelled {v : Json} (h : Spells (.value v) s) (hw : IsBlank w) (hr : Stops rest) :
    skipValue (w ++ (s ++ rest)) = .ok rest := by
  rw [skipValue, h.passed [] w rest hw hr, skipWithin]

end Roster.Record
