import Roster.Proofs.Faults
import Roster.Proofs.ItemSet
import Roster.Relational.Operations

/-!
# Operations of the relational store that fail

Inside a transaction statements only reach its draft, so whatever goes wrong before the commit is
forgotten with the draft. Deleting a user is a single statement that takes effect at once; it fails
afterwards only when it deleted nothing.
-/

namespace Roster.Relational

open Script Operation

/-- The database is this one. -/
def Untouched (d : Database) (st : Shared × Draft) : Prop := st.1.database = d

/-- The database is this one, and a transaction is open. -/
def Drafting (d : Database) (st : Shared × Draft) : Prop := Untouched d st ∧ st.2.isSome

/-- Whatever fails, the database is this one when the operation answers, and also when it fails. -/
def Leaves {α : Type} (d : Database) (s : Operation α) : Prop :=
  ∀ st, Untouched d st → s.Ensures (orFail serve) (either (fun _ => Untouched d) (Untouched d)) st

/-- The same for a part of a transaction, which stays open. -/
def Drafts {α : Type} (d : Database) (s : Operation α) : Prop :=
  ∀ st, Drafting d st → s.Ensures (orFail serve) (either (fun _ => Drafting d) (Untouched d)) st

/-- Whatever fails, the database is this one when the rest of a transaction fails. -/
def Settles {α : Type} (d : Database) (s : Operation α) : Prop :=
  ∀ st, Drafting d st → s.Ensures (orFail serve) (either (fun _ _ => True) (Untouched d)) st

/-- Whatever fails, the database is this one when the operation fails. -/
def Discards {α : Type} (d : Database) (s : Operation α) : Prop :=
  ∀ st, Untouched d st → s.Ensures (orFail serve) (either (fun _ _ => True) (Untouched d)) st

variable {α β : Type} {d : Database} {s : Operation α} {f : α → Operation β}

/-! ## Outside of transactions -/

namespace Leaves

theorem bind (h : Leaves d s) (h' : ∀ a, Leaves d (f a)) : Leaves d (s >>= f) :=
  fun st hst => (h st hst).bind fun a st' hst' => h' a st' hst'

theorem then_discards (h : Leaves d s) (h' : ∀ a, Discards d (f a)) : Discards d (s >>= f) :=
  fun st hst => (h st hst).bind fun a st' hst' => h' a st' hst'

theorem pure (a : α) : Leaves d (pure a) := fun _ hst => Ensures.pure hst

theorem fail (e : StoreError) : Leaves d (fail e : Operation α) := fun _ hst => Ensures.fail hst

theorem report (event : Log.Event) : Leaves d (Log.Reports.report event : Operation Unit) :=
  fun _ hst => Ensures.report event hst

theorem ask {c : Call α} (h : ∀ st, (serve c st).2.1.database = st.1.database) (name : String) :
    Leaves d (Operation.ask name c) := by
  intro st hst
  have hafter (r : Except DbFault α) (st' : Shared × Draft) (hr : orFail serve c st r st') :
      Untouched d st' := by
    rcases hr with ⟨-, rfl⟩ | ⟨-, he⟩
    · exact (h st).trans hst
    · exact (congrArg Shared.database he).trans hst
  exact Ensures.ask (fun a => hafter (.ok a)) fun f => hafter (.error f)

theorem discards (h : Leaves d s) : Discards d s := fun st hst =>
  (h st hst).imp fun r _ hr => by
    cases r with
    | ok a => trivial
    | error e => exact hr

end Leaves

/-! ## In a transaction -/

/-- The call ends a transaction. -/
def Call.isCommit {β : Type} : Call β → Bool
  | .commit => true
  | _ => false

/-- Every call but the commit leaves the transaction open and the database alone. -/
theorem serve_drafting {c : Call α} (hc : c.isCommit = false) {st : Shared × Draft}
    (hst : Drafting d st) : Drafting d (serve c st).2 := by
  obtain ⟨shared, draft⟩ := st
  obtain ⟨hd, hdraft⟩ := hst
  obtain ⟨db, rfl⟩ := Option.isSome_iff_exists.1 hdraft
  cases c with
  | commit => cases hc
  | insertUser | insertRoles => simp only [serve]; split <;> exact ⟨hd, rfl⟩
  | setFullName | deleteRoles | deleteUser => simp only [serve]; split <;> exact ⟨hd, rfl⟩
  | _ => exact ⟨hd, rfl⟩

namespace Drafts

theorem bind (h : Drafts d s) (h' : ∀ a, Drafts d (f a)) : Drafts d (s >>= f) :=
  fun st hst => (h st hst).bind fun a st' hst' => h' a st' hst'

theorem then_settles (h : Drafts d s) (h' : ∀ a, Settles d (f a)) : Settles d (s >>= f) :=
  fun st hst => (h st hst).bind fun a st' hst' => h' a st' hst'

theorem pure (a : α) : Drafts d (pure a) := fun _ hst => Ensures.pure hst

theorem report (event : Log.Event) : Drafts d (Log.Reports.report event : Operation Unit) :=
  fun _ hst => Ensures.report event hst

theorem ask {c : Call α} (hc : c.isCommit = false) (wrap : DbFault → StoreError) :
    Drafts d (Script.ask wrap c) := by
  intro st hst
  refine Ensures.ask (fun a st' hr => ?_) fun e st' hr => ?_
  · rcases hr with ⟨-, rfl⟩ | ⟨⟨e, he⟩, -⟩
    · exact serve_drafting hc hst
    · cases he
  · rcases hr with ⟨-, rfl⟩ | ⟨-, he⟩
    · exact (serve_drafting hc hst).1
    · exact (congrArg Shared.database he).trans hst.1

end Drafts

theorem settles_fail (e : StoreError) : Settles d (fail e : Operation α) := fun _ hst => Ensures.fail hst.1

/-- A commit that fails did not happen, and nothing fails after one that did. -/
theorem settles_commit (name : String) (event : Log.Event) :
    Settles d (Operation.ask name .commit >>= fun _ => Log.Reports.report event) := by
  intro st hst
  refine Ensures.bind (P := fun _ _ => True) (Ensures.ask (fun _ _ _ => trivial) fun e st' hr => ?_)
    fun _ _ _ => Ensures.report event trivial
  rcases hr with ⟨he, -⟩ | ⟨-, he⟩
  · cases he
  · exact (congrArg Shared.database he).trans hst.1

/-- A transaction begins with a draft of the database. -/
theorem discards_begin {f : Unit → Operation α} (h : Settles d (f ())) (name : String) :
    Discards d (Operation.ask name .begin >>= f) := by
  intro st hst
  refine Ensures.bind (P := fun _ => Drafting d) (Ensures.ask (fun a st' hr => ?_) fun e st' hr => ?_)
    fun _ st' hst' => h st' hst'
  · rcases hr with ⟨-, rfl⟩ | ⟨⟨e, he⟩, -⟩
    · exact ⟨hst, rfl⟩
    · cases he
  · rcases hr with ⟨he, -⟩ | ⟨-, he⟩
    · cases he
    · exact (congrArg Shared.database he).trans hst

/-! ## Parts of operations -/

theorem leaves_requireFit (reason : Option Unfit) : Leaves d (requireFit reason) := by
  cases reason with
  | none => exact .pure ()
  | some reason => exact .fail reason.toError

theorem leaves_connection (name : String) : Leaves d (connection name) := by
  refine .bind (.ask (fun _ => rfl) name) fun isOpen => ?_
  cases isOpen with
  | true => exact .pure ()
  | false => exact .fail .closed

theorem drafts_syncRoles (email : String) (previous next : ItemSet String) :
    Drafts d (syncRoles email previous next) := by
  have hreport (changed : Bool) : Drafts d
      (if changed then pure () else Log.Reports.report (.rowsUntouched email) : Operation Unit) := by
    cases changed with
    | true => exact .pure ()
    | false => exact .report _
  have hif (roles : ItemSet String) {s : Operation Unit} (hs : Drafts d s) :
      Drafts d (if roles.isEmpty then pure () else s) := by
    split
    · exact .pure ()
    · exact hs
  refine .bind ?_ hreport
  unfold adjustRoles
  cases RoleDiff.between previous next with
  | none => exact .pure false
  | some diff =>
    simp only [RoleDiff.apply_eq]
    exact .bind (.bind (.report _) fun _ => .bind (hif _ (.bind (.ask rfl _) fun _ => .report _)) fun _ =>
      hif _ (.ask rfl _)) fun _ => .pure true

/-! ## Mutations -/

theorem discards_createUser (u : User) : Discards d (createUser u) := by
  refine (leaves_requireFit _).then_discards fun _ => (leaves_connection _).then_discards fun _ =>
    discards_begin (Drafts.then_settles (.ask rfl _) fun found => ?_) _
  cases found.isSome with
  | true => exact settles_fail .userAlreadyExists
  | false =>
    exact Drafts.then_settles (.ask rfl _) fun _ => (drafts_syncRoles _ _ _).then_settles fun _ =>
      settles_commit _ _

theorem discards_updateUser (u : User) : Discards d (updateUser u) := by
  refine (leaves_requireFit _).then_discards fun _ => (leaves_connection _).then_discards fun _ =>
    discards_begin (Drafts.then_settles (.ask rfl _) fun changed => ?_) _
  by_cases hc : changed = 0
  · simp only [if_pos hc]
    exact settles_fail .userNotFound
  · simp only [if_neg hc]
    exact Drafts.then_settles (.ask rfl _) fun _ => (drafts_syncRoles _ _ _).then_settles fun _ =>
      settles_commit _ _

/-- What writes is done only where writing is allowed. -/
theorem writing_ok {shared : Shared} {r : Except DbFault α} {a : α} (h : shared.writing r = .ok a) :
    shared.readOnly = false ∧ r = .ok a := by
  unfold Shared.writing at h
  split at h
  · cases h
  · rename_i hwritable
    exact ⟨Bool.eq_false_iff.2 hwritable, h⟩

theorem deleteUser_zero {db db' : Database} {email : String} (h : db.deleteUser email = .ok (db', 0)) :
    db' = db := by
  unfold Database.deleteUser at h
  cases hn : db.naming "users" ["email"] with
  | error f =>
    rw [hn] at h
    cases h
  | ok t =>
    simp only [hn, Bind.bind, Except.bind, Database.refused] at h
    split at h
    · cases h
      rfl
    · -- a user who is there is deleted, or the statement is refused
      split at h
      · cases h
      · split at h
        · cases h
        · split at h <;> cases h

/-- A statement that deletes no user changes nothing. -/
theorem serve_deleteUser_untouched {email : String} {st : Shared × Draft} {r : Except DbFault Nat}
    (hr : r = (serve (.deleteUser email) st).1) (hnone : ∀ n, r = .ok n → n = 0) :
    Untouched st.1.database (serve (.deleteUser email) st).2 := by
  obtain ⟨shared, _ | draft⟩ := st
  · cases hd : shared.writing (shared.database.deleteUser email) with
    | error e => simp [Untouched, serve, hd]
    | ok p =>
      obtain ⟨db, n⟩ := p
      obtain rfl : n = 0 := hnone n (by simp [hr, serve, hd])
      cases deleteUser_zero (writing_ok hd).2
      simp [Untouched, serve, hd]
  · simp only [Untouched, serve]
    split <;> rfl

/-- Deleting a user either takes effect or, when there is none to delete, leaves everything. -/
theorem discards_deleteUser (email : String) : Discards d (deleteUser email) := by
  refine (leaves_requireFit _).then_discards fun _ => (leaves_connection _).then_discards fun _ => ?_
  intro st hst
  refine Ensures.bind (P := fun n st => n = 0 → Untouched d st) (Ensures.ask (fun n st' hr => ?_) fun e st' hr => ?_)
    fun n st' hst' => ?_
  · rcases hr with ⟨hn, rfl⟩ | ⟨⟨e, he⟩, -⟩
    · rintro rfl
      exact (serve_deleteUser_untouched hn fun n h => by cases h; rfl).trans hst
    · cases he
  · rcases hr with ⟨he, rfl⟩ | ⟨-, he⟩
    · exact (serve_deleteUser_untouched he nofun).trans hst
    · exact (congrArg Shared.database he).trans hst
  · by_cases hn : n = 0
    · simp only [if_pos hn]
      exact Ensures.fail (hst' hn)
    · simp only [if_neg hn]
      exact Ensures.report _ trivial

theorem Discards.then_pure (h : Discards d s) (b : β) : Discards d (s >>= fun _ => pure b) :=
  fun st hst => (h st hst).bind fun _ _ _ => Ensures.pure trivial

/-! ## Reads -/

theorem leaves_getUser (email : String) : Leaves d (getUser email) := by
  refine (leaves_requireFit _).bind fun _ => (leaves_connection _).bind fun _ =>
    .bind (.ask (fun _ => rfl) _) fun rows => ?_
  cases grouped rows with
  | nil => exact .fail _
  | cons group groups => exact .pure _

theorem leaves_getUsers : Leaves d getUsers :=
  (leaves_connection _).bind fun _ => .bind (.ask (fun _ => rfl) _) fun _ => .pure _

theorem leaves_getUsersByRole (role : String) : Leaves d (getUsersByRole role) := by
  unfold getUsersByRole
  cases hasNul role with
  | true => exact .pure []
  | false => exact (leaves_connection _).bind fun _ => .bind (.ask (fun _ => rfl) _) fun _ => .pure _

theorem leaves_liveRoles : Leaves d liveRoles := (leaves_connection _).bind fun _ => .ask (fun _ => rfl) _

theorem leaves_memberCount : Leaves d memberCount := (leaves_connection _).bind fun _ => .ask (fun _ => rfl) _

theorem leaves_close : Leaves d close := by
  refine .bind (.ask (fun _ => rfl) _) fun wasOpen => ?_
  cases wasOpen with
  | true => exact .bind (.ask (fun _ => rfl) _) fun _ => .report _
  | false => exact (Leaves.fail .closed)

/-! ## All requests -/

theorem discards_ofRequest (q : Request) : Discards d (ofRequest q) := by
  cases q with
  | create u => exact (discards_createUser u).then_pure _
  | update u => exact (discards_updateUser u).then_pure _
  | delete email => exact (discards_deleteUser email).then_pure _
  | user email => exact ((leaves_getUser email).bind fun _ => .pure _).discards
  | users => exact (leaves_getUsers.bind fun _ => .pure _).discards
  | usersByRole role => exact ((leaves_getUsersByRole role).bind fun _ => .pure _).discards
  | liveRoles => exact (leaves_liveRoles.bind fun _ => .pure _).discards
  | memberCount => exact (leaves_memberCount.bind fun _ => .pure _).discards
  | close => exact (leaves_close.bind fun _ => .pure _).discards

/-- A request that is answered by an error leaves the database as it was, whatever it holds and
whichever statements fail. -/
theorem database_of_error (plan : Nat → Option (DbFault × (Draft → Draft))) (shared : Shared)
    {q : Request} {e : StoreError}
    (h : ((ofRequest q).run (faulty serve plan) (0, shared, none)).answer = .error e) :
    ((ofRequest q).run (faulty serve plan) (0, shared, none)).state.2.1.database = shared.database := by
  have hpost := (discards_ofRequest q (shared, none) rfl).run (t := (0, shared, none)) Prod.snd
    (faulty_orFail serve plan)
  rw [h] at hpost
  exact hpost

end Roster.Relational
