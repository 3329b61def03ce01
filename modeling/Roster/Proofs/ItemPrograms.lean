import Mathlib.Data.Finset.Card
import Mathlib.Data.Finset.SDiff
import Roster.Proofs.ItemSet
import Roster.Proofs.User

/-!
# Programs on sets

A program works on registers that hold sets, in steps that fill a register anew, change it by one element,
take a difference, or copy one register to another. The steps can be taken with any representation of sets.
Taken with duplicate-free lists, they leave in every register a list of the finite set that the same steps
leave there when they are taken with finite sets; and whatever can be asked of a list is told by its set.
-/

namespace Roster

/-! ## Lists and the sets that they stand for -/

namespace ItemSet

variable {α : Type}

/-- The set that the list stands for. -/
def toFinset (s : ItemSet α) : Finset α := ⟨s.items, s.nodup⟩

@[simp] theorem mem_toFinset {s : ItemSet α} {x : α} : x ∈ s.toFinset ↔ x ∈ s.items := Iff.rfl

theorem size_eq_card (s : ItemSet α) : s.size = s.toFinset.card := rfl

theorem isEmpty_iff_toFinset {s : ItemSet α} : s.isEmpty = true ↔ s.toFinset = ∅ := by
  rw [isEmpty, List.isEmpty_iff, Finset.eq_empty_iff_forall_notMem, List.eq_nil_iff_forall_not_mem]
  exact Iff.rfl

variable [DecidableEq α] {s t : ItemSet α} {x : α}

theorem toFinset_ofList (l : List α) : (ofList l).toFinset = l.toFinset := by
  ext x
  simp

theorem toFinset_insert (s : ItemSet α) (x : α) : (s.insert x).toFinset = Insert.insert x s.toFinset := by
  ext y
  rw [Finset.mem_insert, mem_toFinset, mem_toFinset, mem_insert]

theorem toFinset_erase (s : ItemSet α) (x : α) : (s.erase x).toFinset = s.toFinset.erase x := by
  ext y
  rw [Finset.mem_erase, mem_toFinset, mem_toFinset, mem_erase]

theorem toFinset_difference (s t : ItemSet α) : (s.difference t).toFinset = s.toFinset \ t.toFinset := by
  ext x
  rw [Finset.mem_sdiff, mem_toFinset, mem_toFinset, mem_toFinset, mem_difference]

/-- Two lists count as the same when they stand for the same set. -/
theorem sameAs_iff_toFinset : s.sameAs t = true ↔ s.toFinset = t.toFinset := by
  rw [sameAs_iff, Finset.ext_iff]
  exact Iff.rfl

theorem sameAs_equivalence : Equivalence fun s t : ItemSet α => s.sameAs t = true where
  refl _ := sameAs_iff_toFinset.2 rfl
  symm h := sameAs_iff_toFinset.2 (sameAs_iff_toFinset.1 h).symm
  trans h h' := sameAs_iff_toFinset.2 ((sameAs_iff_toFinset.1 h).trans (sameAs_iff_toFinset.1 h'))

/-- Every element is listed exactly once. -/
theorem count_items (s : ItemSet α) (x : α) : s.items.count x = if x ∈ s.toFinset then 1 else 0 :=
  s.nodup.count

end ItemSet

/-! ## In ascending order -/

/-- An order in which any two elements can be put, and only in one way. -/
structure TotalOrder {α : Type} (le : α → α → Bool) : Prop where
  total (a b : α) : (le a b || le b a) = true
  trans (a b c : α) : le a b = true → le b c = true → le a c = true
  antisymm {a b : α} : le a b = true → le b a = true → a = b

/-- Every element comes before all later ones, and none is equal to a later one. -/
def StrictlyAscending {α : Type} (le : α → α → Bool) (l : List α) : Prop :=
  l.Pairwise fun a b => le a b = true ∧ a ≠ b

theorem totalOrder_texts : TotalOrder textLE where
  total := textLE_total
  trans := textLE_trans
  antisymm h h' := KeyOrder.lt_connected (textLE_iff.1 h') (textLE_iff.1 h)

theorem totalOrder_integers : TotalOrder fun a b : Int => decide (a ≤ b) where
  total a b := by simpa using Int.le_total a b
  trans a b c := by simpa using fun h h' => Int.le_trans h h'
  antisymm h h' := Int.le_antisymm (of_decide_eq_true h) (of_decide_eq_true h')

namespace ItemSet

variable {α : Type} {le : α → α → Bool} {s : ItemSet α}

theorem sortedBy_perm (le : α → α → Bool) (s : ItemSet α) : (s.sortedBy le).Perm s.items := List.mergeSort_perm ..

theorem sortedBy_ascending (h : TotalOrder le) (s : ItemSet α) : StrictlyAscending le (s.sortedBy le) := by
  have hsorted : (s.sortedBy le).Pairwise fun a b => le a b = true := List.pairwise_mergeSort h.trans h.total s.items
  have hnodup : (s.sortedBy le).Nodup := (s.sortedBy_perm le).nodup_iff.2 s.nodup
  exact hsorted.and hnodup

/-- A set has no other ascending list. -/
theorem sortedBy_unique (h : TotalOrder le) {l : List α} (hl : StrictlyAscending le l)
    (hmem : ∀ x, x ∈ l ↔ x ∈ s.toFinset) : l = s.sortedBy le := by
  have hperm : l.Perm (s.sortedBy le) :=
    ((List.perm_ext_iff_of_nodup (hl.imp And.right) s.nodup).2 hmem).trans (s.sortedBy_perm le).symm
  refine List.Perm.eq_of_pairwise (fun a b _ _ hab hba => h.antisymm hab.1 hba.1) hl (sortedBy_ascending h s) hperm

/-- What can be asked of a list is told by a set: the two have the same elements, and what depends on the
order in which elements are listed is told only as far as it does not. -/
structure Represents [DecidableEq α] (le : α → α → Bool) (s : ItemSet α) (elements : Finset α) : Prop where
  denotes : s.toFinset = elements
  contains (x : α) : s.contains x = true ↔ x ∈ elements
  isEmpty : s.isEmpty = true ↔ elements = ∅
  size : s.size = elements.card
  listed (x : α) : s.items.count x = if x ∈ elements then 1 else 0
  sorted (x : α) : x ∈ s.sortedBy le ↔ x ∈ elements
  ascending : StrictlyAscending le (s.sortedBy le)
  unique (l : List α) (hl : StrictlyAscending le l) (hmem : ∀ x, x ∈ l ↔ x ∈ elements) : l = s.sortedBy le

theorem represents [DecidableEq α] (h : TotalOrder le) (s : ItemSet α) : s.Represents le s.toFinset where
  denotes := rfl
  contains _ := contains_iff
  isEmpty := isEmpty_iff_toFinset
  size := s.size_eq_card
  listed := s.count_items
  sorted _ := (s.sortedBy_perm le).mem_iff
  ascending := sortedBy_ascending h s
  unique _ := sortedBy_unique h

end ItemSet

/-! ## Programs -/

/-- A step of a program on registers that hold sets. -/
inductive SetStep (ρ α : Type) where
  /-- Empties a register. -/
  | clear (r : ρ)
  /-- Fills a register with the elements of a list. -/
  | fill (r : ρ) (l : List α)
  | add (r : ρ) (x : α)
  | remove (r : ρ) (x : α)
  /-- Puts what is in `s` and not in `t` into a register. -/
  | subtract (r s t : ρ)
  /-- Puts what is in `s` into a register. -/
  | copy (r s : ρ)

/-- A representation of sets with elements `α`, as far as programs need it. -/
structure SetKind (α σ : Type) where
  empty : σ
  ofList : List α → σ
  insert : σ → α → σ
  erase : σ → α → σ
  difference : σ → σ → σ

namespace SetKind

variable {ρ α σ τ : Type} [DecidableEq ρ]

/-- The registers after a step. -/
def step (k : SetKind α σ) (regs : ρ → σ) : SetStep ρ α → ρ → σ
  | .clear r => Function.update regs r k.empty
  | .fill r l => Function.update regs r (k.ofList l)
  | .add r x => Function.update regs r (k.insert (regs r) x)
  | .remove r x => Function.update regs r (k.erase (regs r) x)
  | .subtract r s t => Function.update regs r (k.difference (regs s) (regs t))
  | .copy r s => Function.update regs r (regs s)

/-- The registers after a program. -/
def run (k : SetKind α σ) (regs : ρ → σ) (program : List (SetStep ρ α)) : ρ → σ := program.foldl k.step regs

/-- The representation by duplicate-free lists. -/
def lists [DecidableEq α] : SetKind α (ItemSet α) := ⟨.empty, .ofList, .insert, .erase, .difference⟩

/-- Finite sets themselves. -/
def sets [DecidableEq α] : SetKind α (Finset α) := ⟨∅, List.toFinset, fun s x => Insert.insert x s, .erase, (· \ ·)⟩

variable [DecidableEq α]

/-- A step changes what the registers stand for as it changes sets. -/
theorem toFinset_step (regs : ρ → ItemSet α) (c : SetStep ρ α) :
    (fun r => (lists.step regs c r).toFinset) = sets.step (fun r => (regs r).toFinset) c := by
  have hupdate (r : ρ) (s : ItemSet α) : (fun r' => (Function.update regs r s r').toFinset) =
      Function.update (fun r' => (regs r').toFinset) r s.toFinset := by
    funext r'
    by_cases h : r' = r
    · subst h
      rw [Function.update_self, Function.update_self]
    · rw [Function.update_of_ne h, Function.update_of_ne h]
  cases c with
  | clear r => exact hupdate r .empty
  | fill r l => exact (hupdate r _).trans (congrArg _ (ItemSet.toFinset_ofList l))
  | add r x => exact (hupdate r _).trans (congrArg _ (ItemSet.toFinset_insert _ x))
  | remove r x => exact (hupdate r _).trans (congrArg _ (ItemSet.toFinset_erase _ x))
  | subtract r s t => exact (hupdate r _).trans (congrArg _ (ItemSet.toFinset_difference _ _))
  | copy r s => exact hupdate r (regs s)

/-- So does a whole program. -/
theorem toFinset_run (regs : ρ → ItemSet α) (program : List (SetStep ρ α)) :
    (fun r => (lists.run regs program r).toFinset) = sets.run (fun r => (regs r).toFinset) program := by
  induction program generalizing regs with
  | nil => rfl
  | cons c program ih =>
    rw [run, run, List.foldl_cons, List.foldl_cons, ← run, ← run, ih, toFinset_step]

/-- Whatever steps are taken, every register holds a list of the set that the same steps on finite sets lead
to: what it contains, how much it contains, and its elements in ascending order are those of the set, and
each is listed once. Two registers count as equal exactly when they hold the same set. -/
theorem registers_represent_sets {le : α → α → Bool} (hle : TotalOrder le) (regs : ρ → ItemSet α)
    (program : List (SetStep ρ α)) :
    let after := lists.run regs program
    let denoted := sets.run (fun r => (regs r).toFinset) program
    (∀ r, (after r).Represents le (denoted r)) ∧
      (∀ r r', ((after r).sameAs (after r') = true ↔ denoted r = denoted r') ∧
        ((after r == after r') = true ↔ denoted r = denoted r')) ∧
      Equivalence fun s t : ItemSet α => s.sameAs t = true := by
  intro after denoted
  have hdenoted (r : ρ) : (after r).toFinset = denoted r := congrFun (toFinset_run regs program) r
  have hsame (r r' : ρ) : (after r).sameAs (after r') = true ↔ denoted r = denoted r' := by
    rw [ItemSet.sameAs_iff_toFinset, hdenoted, hdenoted]
  refine ⟨fun r => ?_, fun r r' => ⟨hsame r r', hsame r r'⟩, ItemSet.sameAs_equivalence⟩
  rw [← hdenoted r]
  exact (after r).represents hle

/-- Programs on texts and on integers, with repetitions and with registers that change themselves. -/
theorem registers_represent_sets_of_repeats :
    let texts : List (SetStep Nat String) :=
      [.fill 0 ["b", "a", "b"], .copy 1 0, .remove 1 "a", .subtract 0 0 1, .add 0 "ab"]
    let integers : List (SetStep Nat Int) := [.fill 0 [5, -1, 5], .clear 1, .add 1 (-1), .remove 0 5]
    ((lists.run (fun _ => .empty) texts) 0).sortedBy textLE = ["a", "ab"] ∧
      ((lists.run (fun _ => .empty) texts) 0).size = 2 ∧
      ((lists.run (fun _ => .empty) integers) 0 == (lists.run (fun _ => .empty) integers) 1) = true := by
  intro texts integers
  obtain ⟨htexts, -⟩ := registers_represent_sets totalOrder_texts (fun _ => .empty) texts
  obtain ⟨-, hintegers, -⟩ := registers_represent_sets totalOrder_integers (fun _ => .empty) integers
  have hset : sets.run (fun _ => (ItemSet.empty : ItemSet String).toFinset) texts 0 = {"a", "ab"} := by decide
  have hascending : StrictlyAscending textLE ["a", "ab"] := by
    unfold StrictlyAscending
    decide
  refine ⟨((htexts 0).unique _ hascending fun x => ?_).symm, ?_, (hintegers 0 1).2.2 (by decide)⟩
  · rw [hset]
    simp
  · rw [(htexts 0).size, hset]
    rfl

end SetKind

end Roster
