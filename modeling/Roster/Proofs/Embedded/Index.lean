import Roster.Proofs.ItemSet
import Roster.Proofs.KeyTable
import Roster.Proofs.MemberKey
import Roster.KeyTable
import Roster.Log.Event

/-!
# Patches of the role index

What adding and removing entries does to the index, for any content of it. Adding after removing
leaves the entries of the next role set, whatever was there; keys of no role concerned stay as they
are.
-/

namespace Roster.Embedded

open Log

/-- The role index. -/
abbrev Index := KeyTable Bytes Bytes

/-- The index with the entries of some roles of an email. -/
def withMembers (index : Index) (email : String) (roles : List String) : Index :=
  roles.foldl (fun index role => index.insert (memberKey role email) []) index

/-- The index without the entries of some roles of an email. -/
def withoutMembers (index : Index) (email : String) (roles : List String) : Index :=
  roles.foldl (fun index role => index.erase (memberKey role email)) index

/-- What is reported while entries are removed: those that are not there. -/
def missingReports (email : String) : Index → List String → List Event
  | _, [] => []
  | index, role :: roles =>
    (if index.has (memberKey role email) then [] else [.entryMissing email role]) ++
      missingReports email (index.erase (memberKey role email)) roles

/-- The index after the changes of an email's roles. -/
def patched (index : Index) (email : String) (d : RoleDiff) : Index :=
  withMembers (withoutMembers index email d.toRemove.items) email d.toAdd.items

/-- The index brought from one role set of an email to another. -/
def synced (index : Index) (email : String) (previous next : ItemSet String) : Index :=
  match RoleDiff.between previous next with
  | none => index
  | some d => patched index email d

/-- What is reported while the index is brought from one role set to another. -/
def syncReports (index : Index) (email : String) (previous next : ItemSet String) : List Event :=
  match RoleDiff.between previous next with
  | none => [.indexUntouched email]
  | some d =>
    .applyingDiff d.toRemove.size d.toAdd.size :: missingReports email index d.toRemove.items

variable {index : Index} {email : String} {roles : List String} {key : Bytes}

theorem memberKey_inj_role {role role' : String} :
    memberKey role email = memberKey role' email ↔ role = role' := by
  refine ⟨fun h => ?_, fun h => by rw [h]⟩
  exact utf8_injective (List.append_inj_left' h rfl)

/-! ## Lookups -/

theorem find?_withMembers :
    (withMembers index email roles).find? key =
      if ∃ role ∈ roles, key = memberKey role email then some [] else index.find? key := by
  induction roles generalizing index with
  | nil => simp [withMembers]
  | cons role roles ih =>
    rw [withMembers, List.foldl_cons, ← withMembers, ih, KeyTable.find?_insert]
    by_cases h : ∃ role ∈ roles, key = memberKey role email
    · simp [h]
    · by_cases hk : key = memberKey role email <;> simp [h, hk]

theorem find?_withoutMembers :
    (withoutMembers index email roles).find? key =
      if ∃ role ∈ roles, key = memberKey role email then none else index.find? key := by
  induction roles generalizing index with
  | nil => simp [withoutMembers]
  | cons role roles ih =>
    rw [withoutMembers, List.foldl_cons, ← withoutMembers, ih, KeyTable.find?_erase]
    by_cases h : ∃ role ∈ roles, key = memberKey role email
    · simp [h]
    · by_cases hk : key = memberKey role email <;> simp [h, hk]

/-- Nothing is reported when every entry is there. -/
theorem missingReports_eq_nil (hroles : roles.Nodup)
    (h : ∀ role ∈ roles, index.has (memberKey role email) = true) :
    missingReports email index roles = [] := by
  induction roles generalizing index with
  | nil => rfl
  | cons role roles ih =>
    obtain ⟨hne, hroles⟩ := List.nodup_cons.1 hroles
    rw [missingReports, if_pos (h role List.mem_cons_self), List.nil_append]
    refine ih hroles fun role' hr => ?_
    have hkey : memberKey role' email ≠ memberKey role email := fun e =>
      hne (memberKey_inj_role.1 e ▸ hr)
    rw [KeyTable.has_eq, KeyTable.find?_erase, if_neg hkey, ← KeyTable.has_eq]
    exact h role' (List.mem_cons_of_mem _ hr)

theorem find?_synced {previous next : ItemSet String} :
    (synced index email previous next).find? key =
      if ∃ role ∈ next.items, role ∉ previous.items ∧ key = memberKey role email then some []
      else if ∃ role ∈ previous.items, role ∉ next.items ∧ key = memberKey role email then none
      else index.find? key := by
  unfold synced
  cases h : RoleDiff.between previous next with
  | none =>
    have hsame := RoleDiff.between_none h
    have h1 : ¬ ∃ role ∈ next.items, role ∉ previous.items ∧ key = memberKey role email :=
      fun ⟨role, hn, hp, _⟩ => hp ((hsame role).2 hn)
    have h2 : ¬ ∃ role ∈ previous.items, role ∉ next.items ∧ key = memberKey role email :=
      fun ⟨role, hp, hn, _⟩ => hn ((hsame role).1 hp)
    rw [if_neg h1, if_neg h2]
  | some d =>
    obtain ⟨hrem, hadd⟩ := RoleDiff.between_some h
    simp only [patched, find?_withMembers, find?_withoutMembers, hrem, hadd, and_assoc]

/-- When the previous roles have their entries, just those of the next roles have them afterwards, and
all other keys are as before. -/
theorem find?_synced_of_present {previous next : ItemSet String}
    (h : ∀ role ∈ previous.items, index.find? (memberKey role email) = some []) :
    (synced index email previous next).find? key =
      if ∃ role ∈ next.items, key = memberKey role email then some []
      else if ∃ role ∈ previous.items, key = memberKey role email then none
      else index.find? key := by
  rw [find?_synced]
  -- a role of both sets is not touched, and has its entry from before
  by_cases hn : ∃ role ∈ next.items, key = memberKey role email
  · obtain ⟨role, hrole, rfl⟩ := hn
    simp only [memberKey_inj_role]
    by_cases hp : role ∈ previous.items
    · simp [hrole, hp, h role hp]
    · simp [hrole, hp]
  · have hn' : ¬ ∃ role ∈ next.items, role ∉ previous.items ∧ key = memberKey role email := by
      rintro ⟨role, hr, -, hk⟩
      exact hn ⟨role, hr, hk⟩
    rw [if_neg hn, if_neg hn']
    by_cases hp : ∃ role ∈ previous.items, key = memberKey role email
    · obtain ⟨role, hr, hk⟩ := hp
      rw [if_pos ⟨role, hr, fun hm => hn ⟨role, hm, hk⟩, hk⟩, if_pos ⟨role, hr, hk⟩]
    · have hp' : ¬ ∃ role ∈ previous.items, role ∉ next.items ∧ key = memberKey role email := by
        rintro ⟨role, hr, -, hk⟩
        exact hp ⟨role, hr, hk⟩
      rw [if_neg hp, if_neg hp']

/-- Nothing is reported missing when the previous roles have their entries. -/
theorem syncReports_of_present {previous next : ItemSet String}
    (h : ∀ role ∈ previous.items, index.find? (memberKey role email) = some []) :
    syncReports index email previous next = [.indexUntouched email] ∨
      ∃ m n, syncReports index email previous next = [.applyingDiff m n] := by
  unfold syncReports
  cases hd : RoleDiff.between previous next with
  | none => exact .inl rfl
  | some d =>
    refine .inr ⟨d.toRemove.size, d.toAdd.size, ?_⟩
    simp only [List.cons.injEq, true_and]
    refine missingReports_eq_nil d.toRemove.nodup fun role hr => ?_
    rw [KeyTable.has_eq, h role ((RoleDiff.between_some hd).1 role |>.1 hr).1]
    rfl

end Roster.Embedded
