import Roster.Text.Bytes

/-!
# Finite sets

A set is a list without repetitions. The list's order is the one in which a caller meets the
elements and carries no meaning: sets with the same elements count as equal.
-/

namespace Roster

/-- A finite set, as a duplicate-free list of its elements in no meaningful order. -/
structure ItemSet (α : Type) where
  /-- The elements, each once. -/
  items : List α
  /-- No element occurs twice. -/
  nodup : items.Nodup

namespace ItemSet

variable {α : Type}

/-- The set without elements. -/
def empty : ItemSet α := ⟨[], List.nodup_nil⟩

/-- The number of elements. -/
def size (s : ItemSet α) : Nat := s.items.length

/-- The set has no elements. -/
def isEmpty (s : ItemSet α) : Bool := s.items.isEmpty

variable [DecidableEq α]

/-- `x` is an element. -/
def contains (s : ItemSet α) (x : α) : Bool := s.items.contains x

/-- The set with `x` added. -/
def insert (s : ItemSet α) (x : α) : ItemSet α :=
  if h : s.items.contains x then s else ⟨x :: s.items, List.nodup_cons.2 ⟨by simpa using h, s.nodup⟩⟩

/-- The set with `x` taken out. -/
def erase (s : ItemSet α) (x : α) : ItemSet α := ⟨s.items.erase x, s.nodup.erase x⟩

/-- The set of the elements of a list. -/
def ofList (l : List α) : ItemSet α := l.foldl insert empty

/-- The elements of `s` that are not in `t`. -/
def difference (s t : ItemSet α) : ItemSet α :=
  ⟨s.items.filter fun x => !t.contains x, s.nodup.filter _⟩

/-- Whether the two sets have the same elements: they have equally many, and each element of the
first is one of the second. -/
def sameAs (s t : ItemSet α) : Bool := s.size == t.size && s.items.all t.contains

instance : BEq (ItemSet α) := ⟨sameAs⟩

/-- The elements in the order of `le`. -/
def sortedBy (le : α → α → Bool) (s : ItemSet α) : List α := s.items.mergeSort le

/-- The elements of a set of texts in ascending byte order. -/
def sorted (s : ItemSet String) : List String := sortTexts s.items

end ItemSet

end Roster
