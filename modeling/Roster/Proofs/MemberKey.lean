import Mathlib.Data.List.TakeWhile
import Roster.Embedded.MemberKey
import Roster.Proofs.Bytes

/-!
# Keys of the role index, taken apart

A key splits at its first zero, so for a role without NUL it gives role and email back, and the
range of a role holds exactly the byte strings that begin with the role and the separator. Keys are
ordered by role first and by email among the keys of a role.
-/

namespace Roster.Embedded

variable {role role' email email' : String} {key : Bytes}

theorem zero_not_mem (h : hasNul role = false) : separator ∉ utf8 role := by
  rw [separator, zero_mem_utf8, h]
  simp

/-! ## Splitting -/

theorem cut_separator {a : Bytes} (h : separator ∉ a) (b : Bytes) :
    (a ++ separator :: b).takeWhile (· != separator) = a ∧
      (a ++ separator :: b).dropWhile (· != separator) = separator :: b := by
  have hall : ∀ x ∈ a, (x != separator) = true := fun x hx => bne_iff_ne.2 fun e => h (e ▸ hx)
  rw [List.takeWhile_append_of_pos hall, List.dropWhile_append_of_pos hall]
  simp

/-- What splits into role and email is their key, and only for a role without the separator. -/
theorem splitKey?_eq_some :
    splitKey? key = some (role, email) ↔ key = memberKey role email ∧ hasNul role = false := by
  constructor
  · intro h
    unfold splitKey? at h
    split at h
    · cases h
    · rename_i c rest hrest
      simp only [bind, Option.bind_eq_some_iff, Option.pure_def, Option.some.injEq, Prod.mk.injEq] at h
      obtain ⟨r, hr, e, he, rfl, rfl⟩ := h
      rw [ofUtf8?_eq_some] at hr he
      -- what ended the first part is a separator, and there was none before it
      have hc : c = separator := by
        have := List.head?_dropWhile_not (· != separator) key
        simpa [hrest] using this
      subst hc
      refine ⟨?_, ?_⟩
      · rw [memberKey, ← hr, ← he, ← hrest, List.takeWhile_append_dropWhile]
      · have hz : separator ∉ utf8 r := fun hm => by
          have := List.mem_takeWhile_imp (hr ▸ hm)
          simp at this
        simpa [separator, zero_mem_utf8] using hz
  · rintro ⟨rfl, h⟩
    obtain ⟨ht, hd⟩ := cut_separator (zero_not_mem h) (utf8 email)
    simp [splitKey?, memberKey, ht, hd, ofUtf8?_utf8]

theorem splitKey?_memberKey (h : hasNul role = false) :
    splitKey? (memberKey role email) = some (role, email) :=
  splitKey?_eq_some.2 ⟨rfl, h⟩

theorem memberKey_inj (h : hasNul role = false) (h' : hasNul role' = false) :
    memberKey role email = memberKey role' email' ↔ role = role' ∧ email = email' := by
  refine ⟨fun he => ?_, fun ⟨hr, he⟩ => by rw [hr, he]⟩
  have hs : splitKey? (memberKey role email) = some (role, email) := splitKey?_memberKey h
  rw [he, splitKey?_memberKey h'] at hs
  simpa [eq_comm] using hs

/-! ## Ranges -/

theorem within_iff {a k : Bytes} :
    (¬ k < a ++ [separator] ∧ k < a ++ [separator + 1]) ↔ ∃ b, k = a ++ separator :: b := by
  induction a generalizing k with
  | nil =>
    cases k with
    | nil => simp
    | cons x xs => simp [List.cons_lt_cons_iff, separator]
  | cons y a ih =>
    cases k with
    | nil => simp
    | cons x xs =>
      simp only [List.cons_append, List.cons_lt_cons_iff, List.cons.injEq, exists_and_left]
      by_cases h : x = y
      · subst h
        simpa [UInt8.lt_irrefl] using ih
      · simp [h]

/-- The range of a role holds exactly the byte strings that begin with the role and the separator. -/
theorem inRange_iff :
    (KeyOrder.lt key (roleRange role).1 = false ∧ KeyOrder.lt key (roleRange role).2 = true) ↔
      ∃ b, key = utf8 role ++ separator :: b := by
  rw [← within_iff]
  exact and_congr decide_eq_false_iff_not decide_eq_true_iff

theorem within_iff_prefix {a k : Bytes} :
    (a ++ [separator] ≤ k ∧ k < a ++ [separator + 1]) ↔ a ++ [separator] <+: k := by
  rw [← List.not_lt, within_iff]
  constructor
  · rintro ⟨b, rfl⟩
    exact ⟨b, by simp⟩
  · rintro ⟨b, rfl⟩
    exact ⟨b, by simp⟩

/-- The key of a role begins with that role and a separator, and with no other role and a separator. -/
theorem prefix_memberKey (h : hasNul role = false) (h' : hasNul role' = false) :
    utf8 role ++ [separator] <+: memberKey role' email' ↔ role' = role := by
  constructor
  · rintro ⟨b, hb⟩
    have hcut : memberKey role' email' = utf8 role ++ separator :: b := by simp [← hb]
    apply utf8_injective
    rw [← (cut_separator (zero_not_mem h') (utf8 email')).1, ← (cut_separator (zero_not_mem h) b).1,
      ← hcut, memberKey]
  · rintro rfl
    exact ⟨utf8 email', by simp [memberKey]⟩

/-! ## Order -/

theorem lt_append_left {a b c : Bytes} : a ++ b < a ++ c ↔ b < c := by
  induction a with
  | nil => rfl
  | cons x a ih => simpa [List.cons_lt_cons_iff, UInt8.lt_irrefl] using ih

theorem lt_separated {a b c d : Bytes} (ha : separator ∉ a) (hb : separator ∉ b) (hne : a ≠ b) :
    a ++ separator :: c < b ++ separator :: d ↔ a < b := by
  induction a generalizing b with
  | nil =>
    cases b with
    | nil => exact absurd rfl hne
    | cons y b =>
      -- a separator is below everything that is not one
      have : separator < y := by
        have hy : y ≠ separator := fun e => hb (e ▸ List.mem_cons_self)
        simp only [separator, UInt8.lt_iff_toNat_lt, ne_eq, ← UInt8.toNat_inj] at hy ⊢
        exact Nat.pos_of_ne_zero hy
      simp [List.cons_lt_cons_iff, this]
  | cons x a ih =>
    cases b with
    | nil =>
      have : ¬ x < separator := by simp [separator, UInt8.lt_iff_toNat_lt]
      have hx : x ≠ separator := fun e => ha (e ▸ List.mem_cons_self)
      simp [List.cons_lt_cons_iff, this, hx]
    | cons y b =>
      simp only [List.cons_append, List.cons_lt_cons_iff]
      by_cases h : x = y
      · subst h
        have := ih (fun hm => ha (List.mem_cons_of_mem _ hm)) (fun hm => hb (List.mem_cons_of_mem _ hm))
          (fun e => hne (e ▸ rfl))
        simpa [UInt8.lt_irrefl] using this
      · simp [h]

/-- Keys are ordered as the pairs of role and email. -/
theorem memberKey_lt (h : hasNul role = false) (h' : hasNul role' = false) :
    KeyOrder.lt (memberKey role email) (memberKey role' email') =
      KeyOrder.lt (role, email) (role', email') := by
  simp only [KeyOrder.lt, memberKey]
  by_cases he : role = role'
  · subst he
    simp [lt_append_left]
  · have hne : utf8 role ≠ utf8 role' := fun e => he (utf8_injective e)
    simp [he, lt_separated (zero_not_mem h) (zero_not_mem h') hne]

/-! ## The layout -/

/-- For roles without NUL and any emails: a key splits into the role and the email that it was made of, so
it belongs to one pair only; it lies in the range of its role and of no other; and keys stand in the order
of the pairs. A range takes in all byte strings that begin with its role and a separator, keys or not. -/
theorem memberKey_layout (h : hasNul role = false) (h' : hasNul role' = false) (email email' : String) :
    splitKey? (memberKey role email) = some (role, email) ∧
      (memberKey role email = memberKey role' email' ↔ role = role' ∧ email = email') ∧
      ((roleRange role).1 ≤ memberKey role' email' ∧ memberKey role' email' < (roleRange role).2 ↔
        role' = role) ∧
      (∀ key, (roleRange role).1 ≤ key ∧ key < (roleRange role).2 ↔ utf8 role ++ [separator] <+: key) ∧
      (memberKey role email < memberKey role' email' ↔
        utf8 role < utf8 role' ∨ role = role' ∧ utf8 email < utf8 email') := by
  have hrange (key : Bytes) :
      (roleRange role).1 ≤ key ∧ key < (roleRange role).2 ↔ utf8 role ++ [separator] <+: key :=
    within_iff_prefix
  refine ⟨splitKey?_memberKey h, memberKey_inj h h', ?_, hrange, ?_⟩
  · rw [hrange, prefix_memberKey h h']
  · have horder : KeyOrder.lt (memberKey role email) (memberKey role' email') = true ↔
        KeyOrder.lt (role, email) (role', email') = true := by
      rw [memberKey_lt h h']
    by_cases he : role = role'
    · subst he
      simpa [KeyOrder.lt, List.lt_irrefl] using horder
    · simpa [KeyOrder.lt, he] using horder

/-- A role that is the beginning of another one, and goes on with the lowest byte that a role can have. -/
theorem memberKey_layout_of_prefix :
    splitKey? (memberKey "a" "") = some ("a", "") ∧ memberKey "a" "" ≠ memberKey "a\x01" "b" ∧
      ¬ ((roleRange "a").1 ≤ memberKey "a\x01" "b" ∧ memberKey "a\x01" "b" < (roleRange "a").2) ∧
      ((roleRange "a").1 ≤ [0x61, 0, 0xFF, 0] ∧ [0x61, 0, 0xFF, 0] < (roleRange "a").2) ∧
      memberKey "a" "" < memberKey "a\x01" "b" := by
  obtain ⟨hsplit, hinj, hown, hrange, horder⟩ := @memberKey_layout "a" "a\x01" rfl rfl "" "b"
  have hne : "a" ≠ "a\x01" := by decide
  refine ⟨hsplit, fun e => hne (hinj.1 e).1, fun e => hne (hown.1 e).symm, (hrange _).2 ?_, horder.2 (.inl ?_)⟩
  · exact ⟨[0xFF, 0], by decide⟩
  · decide

end Roster.Embedded
