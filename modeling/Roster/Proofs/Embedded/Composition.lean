import Roster.Embedded.Operations
import Roster.Proofs.ItemSet
import Roster.Proofs.Script

/-!
# How operations are put together

An operation is put together from calls, reports, errors and answers, one after another. A property
that respects this holds of every operation as soon as it holds of the parts; only the commit, which
is not like other calls, is left to be looked at.
-/

namespace Roster.Embedded

open Log Operation

/-- The call commits a write transaction. -/
def Call.isCommit {β : Type} : Call β → Bool
  | .commit => true
  | _ => false

/-- A property of operations that respects how they are put together. -/
structure Composes (P : {α : Type} → Operation α → Prop) : Prop where
  pure {α : Type} (a : α) : P (pure a : Operation α)
  fail {α : Type} (e : StoreError) : P (.fail e : Operation α)
  report (event : Event) : P (Reports.report event : Operation Unit)
  ask {α : Type} (c : Call α) (h : c.isCommit = false) (name : String) : P (ask name c)
  bind {α β : Type} {s : Operation α} {f : α → Operation β} (h : P s) (h' : ∀ a, P (f a)) : P (s >>= f)

namespace Composes

variable {P : {α : Type} → Operation α → Prop} (h : Composes P)

include h

theorem forM {α : Type} {f : α → Operation Unit} {l : List α} (hf : ∀ a, P (f a)) : P (l.forM f) := by
  induction l with
  | nil => exact h.pure ()
  | cons a l ih => exact h.bind (hf a) fun _ => ih

theorem mapM {α β : Type} {f : α → Operation β} {l : List α} (hf : ∀ a, P (f a)) : P (l.mapM f) := by
  induction l with
  | nil => exact h.pure []
  | cons a l ih =>
    rw [List.mapM_cons]
    exact h.bind (hf a) fun _ => h.bind ih fun _ => h.pure _

/-! ## Parts of operations -/

theorem requireFit (reason : Option Unfit) : P (requireFit reason) := by
  cases reason with
  | none => exact h.pure ()
  | some reason => exact h.fail reason.toError

theorem enter (name : String) : P (enter name) := by
  refine h.bind (h.ask _ rfl name) fun isOpen => ?_
  cases isOpen with
  | true => exact h.ask _ rfl name
  | false => exact h.fail .closed

theorem decodeUser (email : String) (record : Bytes) : P (decodeUser email record) := by
  unfold Operation.decodeUser
  cases Record.decode record with
  | ok u => exact h.pure u
  | error f => exact h.fail _

theorem addMembers (email : String) (roles : ItemSet String) : P (addMembers email roles) :=
  h.bind (h.ask _ rfl _) fun _ => h.forM fun _ => h.ask _ rfl _

theorem removeMembers (email : String) (roles : ItemSet String) : P (removeMembers email roles) := by
  refine h.bind (h.ask _ rfl _) fun _ => h.forM fun role => h.bind (h.ask _ rfl _) fun there => ?_
  cases there with
  | true => exact h.pure ()
  | false => exact h.report _

theorem syncIndex (email : String) (previous next : ItemSet String) :
    P (syncIndex email previous next) := by
  have hreport (changed : Bool) :
      P (if changed then Pure.pure () else Reports.report (.indexUntouched email) : Operation Unit) := by
    cases changed with
    | true => exact h.pure ()
    | false => exact h.report _
  have hif (roles : ItemSet String) {s : Operation Unit} (hs : P s) :
      P (if roles.isEmpty then Pure.pure () else s) := by
    split
    · exact h.pure ()
    · exact hs
  refine h.bind ?_ hreport
  -- a difference is reported, then taken away, then added, each only where there is one
  unfold adjustRoles
  cases RoleDiff.between previous next with
  | none => exact h.pure false
  | some d =>
    simp only [RoleDiff.apply_eq]
    exact h.bind (h.bind (h.report _) fun _ => h.bind (hif _ (h.removeMembers email _)) fun _ =>
      hif _ (h.addMembers email _)) fun _ => h.pure true

theorem followMember (role : String) (key : Bytes) : P (followMember role key) := by
  unfold Operation.followMember
  cases splitKey? key with
  | none => exact h.bind (h.report _) fun _ => h.pure _
  | some p =>
    refine h.bind (h.ask _ rfl _) fun found => ?_
    cases found with
    | none => exact h.bind (h.report _) fun _ => h.pure _
    | some record => exact h.bind (h.decodeUser _ _) fun _ => h.pure _

/-! ## Reads -/

theorem getUser (email : String) : P (getUser email) := by
  refine h.bind (h.requireFit _) fun _ => h.bind (h.enter _) fun _ => h.bind (h.ask _ rfl _) fun _ =>
    h.bind (h.ask _ rfl _) fun _ => h.bind (h.ask _ rfl _) fun found => ?_
  cases found with
  | none => exact h.fail _
  | some record => exact h.decodeUser _ _

theorem getUsers : P getUsers :=
  h.bind (h.enter _) fun _ => h.bind (h.ask _ rfl _) fun _ => h.bind (h.ask _ rfl _) fun _ =>
    h.bind (h.ask _ rfl _) fun _ => h.bind (h.mapM fun _ => h.decodeUser _ _) fun _ => h.pure _

theorem getUsersByRole (role : String) : P (getUsersByRole role) := by
  unfold Operation.getUsersByRole
  cases hasNul role with
  | true => exact h.pure []
  | false =>
    exact h.bind (h.enter _) fun _ => h.bind (h.ask _ rfl _) fun _ => h.bind (h.ask _ rfl _) fun _ =>
      h.bind (h.ask _ rfl _) fun _ => h.bind (h.ask _ rfl _) fun _ =>
        h.bind (h.mapM fun _ => h.followMember _ _) fun _ => h.pure _

theorem liveRoles : P liveRoles :=
  h.bind (h.enter _) fun _ => h.bind (h.ask _ rfl _) fun _ => h.bind (h.ask _ rfl _) fun _ =>
    h.bind (h.ask _ rfl _) fun _ => h.pure _

theorem memberCount : P memberCount :=
  h.bind (h.enter _) fun _ => h.bind (h.ask _ rfl _) fun _ => h.bind (h.ask _ rfl _) fun _ =>
    h.bind (h.ask _ rfl _) fun _ => h.pure _

theorem close (path : String) : P (close path) := by
  refine h.bind (h.ask _ rfl _) fun wasOpen => ?_
  cases wasOpen with
  | true => exact h.report _
  | false => exact h.fail _

/-! ## Mutations -/

section Mutations

variable (hcommit : ∀ name, P (commit name))

include hcommit

theorem createUser (u : User) : P (createUser u) := by
  refine h.bind (h.requireFit _) fun _ => h.bind (h.enter _) fun _ => h.bind (h.ask _ rfl _) fun _ =>
    h.bind (h.ask _ rfl _) fun _ => h.bind (h.ask _ rfl _) fun found => ?_
  cases found.isSome with
  | true => exact h.fail .userAlreadyExists
  | false =>
    exact h.bind (h.ask _ rfl _) fun _ => h.bind (h.syncIndex _ _ _) fun _ =>
      h.bind (hcommit _) fun _ => h.report _

theorem updateUser (u : User) : P (updateUser u) := by
  refine h.bind (h.requireFit _) fun _ => h.bind (h.enter _) fun _ => h.bind (h.ask _ rfl _) fun _ =>
    h.bind (h.ask _ rfl _) fun _ => h.bind (h.ask _ rfl _) fun found => ?_
  cases found with
  | none => exact h.fail _
  | some record =>
    exact h.bind (h.decodeUser _ _) fun _ => h.bind (h.ask _ rfl _) fun _ => h.bind (h.syncIndex _ _ _) fun _ =>
      h.bind (hcommit _) fun _ => h.report _

theorem deleteUser (email : String) : P (deleteUser email) := by
  refine h.bind (h.requireFit _) fun _ => h.bind (h.enter _) fun _ => h.bind (h.ask _ rfl _) fun _ =>
    h.bind (h.ask _ rfl _) fun _ => h.bind (h.ask _ rfl _) fun found => ?_
  cases found with
  | none => exact h.fail _
  | some record =>
    exact h.bind (h.decodeUser _ _) fun _ => h.bind (h.syncIndex _ _ _) fun _ =>
      h.bind (hcommit _) fun _ => h.report _

/-- What respects composition and holds of the commit holds of every operation. -/
theorem ofRequest (path : String) (q : Request) : P (ofRequest path q) := by
  cases q with
  | create u => exact h.bind (h.createUser hcommit u) fun _ => h.pure _
  | update u => exact h.bind (h.updateUser hcommit u) fun _ => h.pure _
  | delete email => exact h.bind (h.deleteUser hcommit email) fun _ => h.pure _
  | user email => exact h.bind (h.getUser email) fun _ => h.pure _
  | users => exact h.bind h.getUsers fun _ => h.pure _
  | usersByRole role => exact h.bind (h.getUsersByRole role) fun _ => h.pure _
  | liveRoles => exact h.bind h.liveRoles fun _ => h.pure _
  | memberCount => exact h.bind h.memberCount fun _ => h.pure _
  | close => exact h.bind (h.close path) fun _ => h.pure _

end Mutations

end Composes

end Roster.Embedded
