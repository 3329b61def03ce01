import Roster.Proofs.ItemSet
import Roster.Proofs.KeyTable
import Roster.User

/-!
# Users in normal form

Sorting and collapsing neighbours leaves a strictly ascending list of the same texts, so a
normalized user lists each of its roles once. Being fit to be stored does not depend on the order
or the repetition of roles, and fit emails and roles contain no NUL.
-/

namespace Roster

/-! ## Sorted texts -/

theorem textLE_iff {s t : String} : textLE s t = true ↔ KeyOrder.lt t s = false := by
  simp [textLE, KeyOrder.lt, List.not_lt]

theorem textLE_total (s t : String) : (textLE s t || textLE t s) = true := by
  simpa [textLE] using List.le_total (utf8 s) (utf8 t)

theorem textLE_trans (s t u : String) : textLE s t = true → textLE t u = true → textLE s u = true := by
  simpa [textLE] using fun h h' => List.le_trans h h'

theorem textLE_of_lt {s t : String} (h : KeyOrder.lt s t = true) : textLE s t = true :=
  textLE_iff.2 (KeyOrder.lt_asymm h)

theorem lt_of_textLE {s t : String} (h : textLE s t = true) (hne : s ≠ t) : KeyOrder.lt s t = true := by
  cases hlt : KeyOrder.lt s t with
  | true => rfl
  | false => exact absurd (KeyOrder.lt_connected hlt (textLE_iff.1 h)) hne

theorem sortTexts_sorted (l : List String) : (sortTexts l).Pairwise fun a b => textLE a b = true :=
  List.pairwise_mergeSort textLE_trans textLE_total l

theorem sortTexts_of_ascending {l : List String} (h : Ascending l) : sortTexts l = l :=
  List.mergeSort_of_pairwise (h.imp textLE_of_lt)

/-- Sorting brings an ascending list back into its order. -/
theorem sortTexts_of_perm {l m : List String} (h : m.Perm l) (hl : Ascending l) : sortTexts m = l := by
  have hanti : ∀ s t, s ∈ sortTexts m → t ∈ l → textLE s t = true → textLE t s = true → s = t :=
    fun s t _ _ hst hts => KeyOrder.lt_connected (textLE_iff.1 hts) (textLE_iff.1 hst)
  exact List.Perm.eq_of_pairwise hanti (sortTexts_sorted m) (hl.imp textLE_of_lt)
    ((List.mergeSort_perm ..).trans h)

@[simp] theorem mem_collapse {l : List String} {s : String} : s ∈ collapse l ↔ s ∈ l := by
  fun_induction collapse l with
  | case1 x l ih => rw [ih]; simp
  | case2 x y l hne ih => rw [List.mem_cons, ih, List.mem_cons (l := y :: l)]
  | case3 l => rfl

theorem collapse_ascending {l : List String} (h : l.Pairwise fun a b => textLE a b = true) :
    Ascending (collapse l) := by
  fun_induction collapse l with
  | case1 x l ih => exact ih h.of_cons
  | case2 x y l hne ih =>
    obtain ⟨hx, hl⟩ := List.pairwise_cons.1 h
    refine List.pairwise_cons.2 ⟨fun s hs => ?_, ih hl⟩
    have hxy := lt_of_textLE (hx y List.mem_cons_self) hne
    rcases List.mem_cons.1 (mem_collapse.1 hs) with rfl | hs
    · exact hxy
    · have hys := (List.pairwise_cons.1 hl).1 s hs
      exact lt_of_textLE (hx s (List.mem_cons_of_mem _ hs)) fun e => by
        subst e
        rw [textLE_iff, hxy] at hys
        cases hys
  | case3 l hl =>
    match l, hl with
    | [], _ => exact .nil
    | [x], _ => exact List.pairwise_singleton _ _
    | x :: y :: l, hl => exact absurd rfl (hl x y l)

/-- The texts of a list in ascending order, each once. -/
def ascendingTexts (l : List String) : List String := collapse (sortTexts l)

theorem ascendingTexts_ascending (l : List String) : Ascending (ascendingTexts l) :=
  collapse_ascending (sortTexts_sorted l)

@[simp] theorem mem_ascendingTexts {l : List String} {s : String} : s ∈ ascendingTexts l ↔ s ∈ l := by
  simp [ascendingTexts, sortTexts]

theorem sortUsers_perm (l : List User) : (sortUsers l).Perm l := List.mergeSort_perm ..

theorem sortUsers_sorted (l : List User) : (sortUsers l).Pairwise fun u v => textLE u.email v.email = true :=
  List.pairwise_mergeSort (fun a b c => textLE_trans a.email b.email c.email)
    (fun a b => textLE_total a.email b.email) l

theorem sortUsers_of_ascending {l : List User} (h : Ascending (l.map (·.email))) : sortUsers l = l :=
  List.mergeSort_of_pairwise ((List.pairwise_map.1 h).imp textLE_of_lt)

theorem sortUsers_of_perm {l m : List User} (h : m.Perm l) (hl : Ascending (l.map (·.email))) :
    sortUsers m = l := by
  have hanti : ∀ u v, u ∈ sortUsers m → v ∈ l → textLE u.email v.email = true →
      textLE v.email u.email = true → u = v := by
    intro u v hu hv huv hvu
    refine List.inj_on_of_nodup_map hl.nodup (h.mem_iff.1 ((sortUsers_perm m).mem_iff.1 hu)) hv ?_
    exact KeyOrder.lt_connected (textLE_iff.1 hvu) (textLE_iff.1 huv)
  exact List.Perm.eq_of_pairwise hanti (sortUsers_sorted m) ((List.pairwise_map.1 hl).imp textLE_of_lt)
    ((sortUsers_perm m).trans h)

/-! ## Normal form -/

namespace User

variable (u : User)

theorem normalized_ascending : Ascending u.normalized.roles := ascendingTexts_ascending u.roles

@[simp] theorem mem_normalized {role : String} : role ∈ u.normalized.roles ↔ role ∈ u.roles :=
  mem_ascendingTexts

theorem length_normalized_le : u.normalized.roles.length ≤ u.roles.length :=
  (u.normalized_ascending.nodup.subperm fun _ hr => u.mem_normalized.1 hr).length_le

@[simp] theorem normalized_email : u.normalized.email = u.email := rfl

@[simp] theorem mem_roleSet {role : String} : role ∈ u.roleSet.items ↔ role ∈ u.roles :=
  ItemSet.mem_ofList

/-- A user with ascending roles has each of them once. -/
theorem normalized_perm (u : User) : u.normalized.roles.Perm u.normalized.roleSet.items :=
  (List.perm_ext_iff_of_nodup u.normalized_ascending.nodup u.normalized.roleSet.nodup).2 fun role => by
    rw [mem_roleSet]

variable {u}

/-! ## Fitness -/

theorem unfit?_eq_none :
    u.unfit? = none ↔ unfitEmail? u.email = none ∧ byteLength u.fullName ≤ fullNameLimit ∧
      ∀ role ∈ u.roles, unfitRole? role = none := by
  unfold unfit?
  cases unfitEmail? u.email with
  | some reason => simp
  | none =>
    by_cases h : byteLength u.fullName > fullNameLimit
    · simp [h]
    · simp [h, Nat.le_of_not_gt h]

theorem unfit?_normalized (h : u.unfit? = none) : u.normalized.unfit? = none := by
  rw [unfit?_eq_none] at h ⊢
  exact ⟨h.1, h.2.1, fun role hr => h.2.2 role (u.mem_normalized.1 hr)⟩

theorem hasNul_of_fit_role {role : String} (h : unfitRole? role = none) : hasNul role = false := by
  unfold unfitRole? at h
  split at h
  · cases h
  · split at h
    · cases h
    · rename_i hnul
      simpa using hnul

end User

end Roster
