import Roster.Embedded.Store
import Roster.Proofs.Embedded.Composition
import Roster.Proofs.Faults

/-!
# Operations of the embedded store that fail

Until it is committed a draft is its caller's own, and after the commit nothing can fail any more. So
an operation that ends with an error has left the tables as they were, whatever they held and
whichever calls of the engine failed.
-/

namespace Roster.Embedded

open Script Operation

/-- The tables of the file are these. -/
def Untouched (t : Tables) (st : Shared × Caller) : Prop := st.1.tables = t

/-- Whatever fails, the tables are these when the operation answers, and also when it fails. -/
def Leaves {α : Type} (t : Tables) (s : Operation α) : Prop :=
  ∀ st, Untouched t st → s.Ensures (orFail serve) (either (fun _ => Untouched t) (Untouched t)) st

/-- Whatever fails, the tables are these when the operation fails. -/
def Discards {α : Type} (t : Tables) (s : Operation α) : Prop :=
  ∀ st, Untouched t st → s.Ensures (orFail serve) (either (fun _ _ => True) (Untouched t)) st

variable {α β : Type} {t : Tables} {s : Operation α} {f : α → Operation β}

/-- No call but the commit concerns the tables of the file. -/
theorem tables_serve {c : Call α} (h : c.isCommit = false) (st : Shared × Caller) :
    (serve c st).2.1.tables = st.1.tables := by
  cases c with
  | commit => cases h
  | _ => rfl

theorem leaves_ask {c : Call α} (h : c.isCommit = false) (name : String) : Leaves t (ask name c) := by
  intro st hst
  have hafter (r : Except String α) (st' : Shared × Caller) (hr : orFail serve c st r st') :
      Untouched t st' := by
    rcases hr with ⟨-, rfl⟩ | ⟨-, he⟩
    · exact (tables_serve h st).trans hst
    · exact (congrArg Shared.tables he).trans hst
  exact Ensures.ask (fun a => hafter (.ok a)) fun f => hafter (.error f)

theorem composes_leaves : Composes (Leaves t) where
  pure _ _ hst := Ensures.pure hst
  fail _ _ hst := Ensures.fail hst
  report event _ hst := Ensures.report event hst
  ask _ h := leaves_ask h
  bind h h' st hst := (h st hst).bind fun a st' hst' => h' a st' hst'

theorem Leaves.then_discards (h : Leaves t s) (h' : ∀ a, Discards t (f a)) : Discards t (s >>= f) :=
  fun st hst => (h st hst).bind fun a st' hst' => h' a st' hst'

theorem Leaves.discards (h : Leaves t s) : Discards t s := fun st hst =>
  (h st hst).imp fun r _ hr => by
    cases r with
    | ok a => trivial
    | error e => exact hr

/-! ## Commits -/

/-- A commit that answers that it failed did. -/
theorem discards_commit (name : String) : Discards t (commit name) := by
  refine (leaves_ask rfl name).then_discards fun gone => ?_
  cases gone with
  | true =>
    intro st hst r st' hr
    have hst' : Untouched t st' := by
      rcases hr with ⟨-, rfl⟩ | ⟨-, he⟩
      · exact hst
      · exact (congrArg Shared.tables he).trans hst
    cases r <;> exact hst'
  | false =>
    intro st hst
    refine Ensures.ask (fun _ _ _ => trivial) fun f st' hr => ?_
    rcases hr with ⟨hanswer, -⟩ | ⟨-, he⟩
    · obtain ⟨shared, view, gone, handed⟩ := st
      cases view <;> cases hanswer
    · exact (congrArg Shared.tables he).trans hst

/-- What follows on a commit cannot fail. -/
theorem Discards.then_report (h : Discards t s) (event : Log.Event) :
    Discards t (s >>= fun _ => Log.Reports.report event) :=
  fun st hst => (h st hst).bind fun _ _ _ => Ensures.report event trivial

theorem Discards.then_pure (h : Discards t s) (b : β) : Discards t (s >>= fun _ => pure b) :=
  fun st hst => (h st hst).bind fun _ _ _ => Ensures.pure trivial

/-! ## Mutations -/

theorem discards_createUser (u : User) : Discards t (createUser u) := by
  have h : Composes (Leaves t) := composes_leaves
  refine (h.requireFit _).then_discards fun _ => (h.enter _).then_discards fun _ =>
    (leaves_ask rfl _).then_discards fun _ => (leaves_ask rfl _).then_discards fun _ =>
    (leaves_ask rfl _).then_discards fun found => ?_
  cases found.isSome with
  | true => exact (h.fail .userAlreadyExists).discards
  | false =>
    exact (leaves_ask rfl _).then_discards fun _ => (h.syncIndex _ _ _).then_discards fun _ =>
      (discards_commit _).then_report _

theorem discards_updateUser (u : User) : Discards t (updateUser u) := by
  have h : Composes (Leaves t) := composes_leaves
  refine (h.requireFit _).then_discards fun _ => (h.enter _).then_discards fun _ =>
    (leaves_ask rfl _).then_discards fun _ => (leaves_ask rfl _).then_discards fun _ =>
    (leaves_ask rfl _).then_discards fun found => ?_
  cases found with
  | none => exact (h.fail _).discards
  | some record =>
    exact (h.decodeUser _ _).then_discards fun _ => (leaves_ask rfl _).then_discards fun _ =>
      (h.syncIndex _ _ _).then_discards fun _ => (discards_commit _).then_report _

theorem discards_deleteUser (email : String) : Discards t (deleteUser email) := by
  have h : Composes (Leaves t) := composes_leaves
  refine (h.requireFit _).then_discards fun _ => (h.enter _).then_discards fun _ =>
    (leaves_ask rfl _).then_discards fun _ => (leaves_ask rfl _).then_discards fun _ =>
    (leaves_ask rfl _).then_discards fun found => ?_
  cases found with
  | none => exact (h.fail _).discards
  | some record =>
    exact (h.decodeUser _ _).then_discards fun _ => (h.syncIndex _ _ _).then_discards fun _ =>
      (discards_commit _).then_report _

/-! ## All requests -/

theorem discards_ofRequest (path : String) (q : Request) : Discards t (ofRequest path q) := by
  have h : Composes (Leaves t) := composes_leaves
  cases q with
  | create u => exact (discards_createUser u).then_pure _
  | update u => exact (discards_updateUser u).then_pure _
  | delete email => exact (discards_deleteUser email).then_pure _
  | user email => exact (h.bind (h.getUser email) fun _ => h.pure _).discards
  | users => exact (h.bind h.getUsers fun _ => h.pure _).discards
  | usersByRole role => exact (h.bind (h.getUsersByRole role) fun _ => h.pure _).discards
  | liveRoles => exact (h.bind h.liveRoles fun _ => h.pure _).discards
  | memberCount => exact (h.bind h.memberCount fun _ => h.pure _).discards
  | close => exact (h.bind (h.close path) fun _ => h.pure _).discards

/-- A request that is answered by an error leaves the tables as they were, whatever they hold and
whichever calls of the engine fail. -/
theorem tables_of_error (path : String) (plan : Nat → Option (String × (Caller → Caller)))
    (shared : Shared) (caller : Caller) {q : Request} {e : StoreError}
    (h : ((ofRequest path q).run (faulty serve plan) (0, shared, caller)).answer = .error e) :
    ((ofRequest path q).run (faulty serve plan) (0, shared, caller)).state.2.1.tables = shared.tables := by
  have hpost := (discards_ofRequest path q (shared, caller) rfl).run (t := (0, shared, caller)) Prod.snd
    (faulty_orFail serve plan)
  rw [h] at hpost
  exact hpost

end Roster.Embedded
