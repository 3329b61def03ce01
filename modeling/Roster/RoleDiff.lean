import Roster.ItemSet
import Roster.Log.Event

/-!
# Role differences

When a user's roles change from one set to another, some entries go and some come. A difference
names both; applying it removes before it adds, calls neither effect for nothing, and does not add
when removing failed.
-/

namespace Roster

open Log

/-- The changes that turn one role set into another. -/
structure RoleDiff where
  toRemove : ItemSet String
  toAdd : ItemSet String

namespace RoleDiff

/-- The changes from `previous` to `next`; none when the sets are the same. -/
def between (previous next : ItemSet String) : Option RoleDiff :=
  if previous.sameAs next then none
  else some ⟨previous.difference next, next.difference previous⟩

variable {m : Type → Type u} [Monad m] [Reports m]

/-- Carries the changes out: first the removals, then the additions, each only if there are any. -/
def apply (d : RoleDiff) (remove add : ItemSet String → m Unit) : m Unit := do
  Reports.report (.applyingDiff d.toRemove.size d.toAdd.size)
  unless d.toRemove.isEmpty do remove d.toRemove
  unless d.toAdd.isEmpty do add d.toAdd

end RoleDiff

/-- Brings an index from the roles `previous` to the roles `next`. The answer says whether there
was anything to change; if not, neither effect is called. -/
def adjustRoles {m : Type → Type u} [Monad m] [Reports m] (previous next : ItemSet String)
    (remove add : ItemSet String → m Unit) : m Bool :=
  match RoleDiff.between previous next with
  | some d => do
    d.apply remove add
    pure true
  | none => pure false

end Roster
