import Mathlib.Data.List.Perm.Subperm
import Roster.RoleDiff

/-!
# What a set holds

Each operation on sets is described by its members. Two sets with the same members count as equal,
which `sameAs` decides by size and one inclusion.
-/

namespace Roster

namespace ItemSet

@[simp] theorem mem_empty {α : Type} {x : α} : x ∉ (empty : ItemSet α).items := List.not_mem_nil

variable {α : Type} [DecidableEq α] {s t : ItemSet α} {x y : α} {l : List α}

theorem contains_iff : s.contains x = true ↔ x ∈ s.items := by simp [contains]

theorem mem_insert : y ∈ (s.insert x).items ↔ y = x ∨ y ∈ s.items := by
  unfold insert
  split
  · rename_i h
    refine ⟨.inr, ?_⟩
    rintro (rfl | hy)
    · simpa using h
    · exact hy
  · exact List.mem_cons

theorem mem_erase : y ∈ (s.erase x).items ↔ y ≠ x ∧ y ∈ s.items := s.nodup.mem_erase_iff

theorem mem_foldl_insert : y ∈ (l.foldl insert s).items ↔ y ∈ l ∨ y ∈ s.items := by
  induction l generalizing s with
  | nil => simp
  | cons x l ih => rw [List.foldl_cons, ih, mem_insert, List.mem_cons]; tauto

@[simp] theorem mem_ofList : x ∈ (ofList l).items ↔ x ∈ l := by
  rw [ofList, mem_foldl_insert]; simp

theorem mem_difference : x ∈ (s.difference t).items ↔ x ∈ s.items ∧ x ∉ t.items := by
  simp [difference, contains]

/-- Equally many elements and one inclusion are enough, because no element is listed twice. -/
theorem sameAs_iff : s.sameAs t = true ↔ ∀ x, x ∈ s.items ↔ x ∈ t.items := by
  simp only [sameAs, size, Bool.and_eq_true, beq_iff_eq, List.all_eq_true, contains_iff]
  constructor
  · rintro ⟨hlen, hsub⟩ x
    exact ((List.subperm_of_subset s.nodup hsub).perm_of_length_le (Nat.le_of_eq hlen.symm)).mem_iff
  · intro h
    exact ⟨((List.perm_ext_iff_of_nodup s.nodup t.nodup).2 h).length_eq, fun x => (h x).1⟩

@[simp] theorem mem_sorted {s : ItemSet String} {x : String} : x ∈ s.sorted ↔ x ∈ s.items := by
  simp [sorted, sortTexts]

end ItemSet

namespace RoleDiff

variable {previous next : ItemSet String} {d : RoleDiff} {role : String}

theorem between_none (h : between previous next = none) : ∀ x, x ∈ previous.items ↔ x ∈ next.items := by
  unfold between at h
  split at h
  · exact ItemSet.sameAs_iff.1 ‹_›
  · cases h

theorem between_some (h : between previous next = some d) :
    (∀ x, x ∈ d.toRemove.items ↔ x ∈ previous.items ∧ x ∉ next.items) ∧
      ∀ x, x ∈ d.toAdd.items ↔ x ∈ next.items ∧ x ∉ previous.items := by
  unfold between at h
  split at h
  · cases h
  · cases h
    exact ⟨fun x => ItemSet.mem_difference, fun x => ItemSet.mem_difference⟩

/-- Carrying a difference out means to report it, to remove if there is anything to remove, and then
to add if there is anything to add. -/
theorem apply_eq {m : Type → Type u} [Monad m] [LawfulMonad m] [Log.Reports m] (d : RoleDiff)
    (remove add : ItemSet String → m Unit) :
    d.apply remove add =
      Log.Reports.report (.applyingDiff d.toRemove.size d.toAdd.size) >>= fun _ =>
        (if d.toRemove.isEmpty then pure () else remove d.toRemove) >>= fun _ =>
          if d.toAdd.isEmpty then pure () else add d.toAdd := by
  unfold apply
  by_cases h : d.toRemove.isEmpty <;> simp [h]

end RoleDiff

end Roster
