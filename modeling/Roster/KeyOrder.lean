import Roster.Text.Bytes

/-!
# The order of keys

A table keeps its rows in the order of their keys. Byte strings are compared position by position,
texts by their UTF-8 bytes, pairs by their first parts unless these are equal, and lists by the
first items that differ.
-/

namespace Roster

/-- A strict total order. -/
class KeyOrder (κ : Type) where
  lt : κ → κ → Bool
  lt_irrefl : ∀ a, lt a a = false
  lt_trans : ∀ {a b c}, lt a b = true → lt b c = true → lt a c = true
  lt_connected : ∀ {a b}, lt a b = false → lt b a = false → a = b

namespace KeyOrder

variable {κ : Type} [KeyOrder κ] {a b : κ}

theorem lt_asymm (h : lt a b = true) : lt b a = false := by
  cases hba : lt b a with
  | false => rfl
  | true => rw [← lt_irrefl a, lt_trans h hba]

theorem ne_of_lt (h : lt a b = true) : a ≠ b := by
  rintro rfl
  rw [lt_irrefl] at h
  cases h

end KeyOrder

instance : KeyOrder Bytes where
  lt a b := decide (a < b)
  lt_irrefl a := decide_eq_false (List.lt_irrefl a)
  lt_trans hab hbc := decide_eq_true (List.lt_trans (of_decide_eq_true hab) (of_decide_eq_true hbc))
  lt_connected hab hba :=
    List.le_antisymm (of_decide_eq_false hba) (of_decide_eq_false hab)

instance : KeyOrder String where
  lt a b := KeyOrder.lt (utf8 a) (utf8 b)
  lt_irrefl a := KeyOrder.lt_irrefl (utf8 a)
  lt_trans hab hbc := KeyOrder.lt_trans (κ := Bytes) hab hbc
  lt_connected hab hba := utf8_injective (KeyOrder.lt_connected (κ := Bytes) hab hba)

instance {κ μ : Type} [DecidableEq κ] [KeyOrder κ] [KeyOrder μ] : KeyOrder (κ × μ) where
  lt a b := if a.1 = b.1 then KeyOrder.lt a.2 b.2 else KeyOrder.lt a.1 b.1
  lt_irrefl a := by simp [KeyOrder.lt_irrefl]
  lt_trans {a b c} hab hbc := by
    by_cases h : a.1 = b.1 <;> by_cases h' : b.1 = c.1
    · simp_all only [if_true]
      exact KeyOrder.lt_trans hab hbc
    · simp_all
    · simp_all
    · have hac := KeyOrder.lt_trans (by simpa [h] using hab) (by simpa [h'] using hbc)
      by_cases he : a.1 = c.1
      · rw [he, KeyOrder.lt_irrefl] at hac; cases hac
      · simpa [he] using hac
  lt_connected {a b} hab hba := by
    by_cases h : a.1 = b.1
    · rw [if_pos h] at hab
      rw [if_pos h.symm] at hba
      exact Prod.ext h (KeyOrder.lt_connected hab hba)
    · rw [if_neg h] at hab
      rw [if_neg (Ne.symm h)] at hba
      exact absurd (KeyOrder.lt_connected hab hba) h

/-- Whether a list comes before another. -/
def listLt {κ : Type} [DecidableEq κ] [KeyOrder κ] : List κ → List κ → Bool
  | [], [] => false
  | [], _ :: _ => true
  | _ :: _, [] => false
  | a :: as, b :: bs => if a = b then listLt as bs else KeyOrder.lt a b

theorem listLt_irrefl {κ : Type} [DecidableEq κ] [KeyOrder κ] (as : List κ) :
    listLt as as = false := by
  induction as with
  | nil => rfl
  | cons a as ih => simpa [listLt] using ih

theorem listLt_trans {κ : Type} [DecidableEq κ] [KeyOrder κ] {as bs cs : List κ}
    (hab : listLt as bs = true) (hbc : listLt bs cs = true) : listLt as cs = true := by
  induction as generalizing bs cs with
  | nil =>
    cases bs with
    | nil => cases hab
    | cons b bs => cases cs with
      | nil => cases hbc
      | cons c cs => rfl
  | cons a as ih =>
    cases bs with
    | nil => cases hab
    | cons b bs => cases cs with
      | nil => cases hbc
      | cons c cs =>
        simp only [listLt] at hab hbc ⊢
        by_cases h : a = b <;> by_cases h' : b = c
        · subst h h'
          simp only [if_true] at hab hbc ⊢
          exact ih hab hbc
        · subst h
          simpa [h'] using hbc
        · subst h'
          simpa [h] using hab
        · have hac := KeyOrder.lt_trans (by simpa [h] using hab) (by simpa [h'] using hbc)
          by_cases he : a = c
          · rw [he, KeyOrder.lt_irrefl] at hac; cases hac
          · simpa [he] using hac

theorem listLt_connected {κ : Type} [DecidableEq κ] [KeyOrder κ] {as bs : List κ}
    (hab : listLt as bs = false) (hba : listLt bs as = false) : as = bs := by
  induction as generalizing bs with
  | nil => cases bs with
    | nil => rfl
    | cons b bs => cases hab
  | cons a as ih => cases bs with
    | nil => cases hba
    | cons b bs =>
      simp only [listLt] at hab hba
      by_cases h : a = b
      · subst h
        rw [ih (by simpa using hab) (by simpa using hba)]
      · rw [if_neg h] at hab
        rw [if_neg (Ne.symm h)] at hba
        exact absurd (KeyOrder.lt_connected hab hba) h

instance {κ : Type} [DecidableEq κ] [KeyOrder κ] : KeyOrder (List κ) where
  lt := listLt
  lt_irrefl := listLt_irrefl
  lt_trans := listLt_trans
  lt_connected := listLt_connected

end Roster
