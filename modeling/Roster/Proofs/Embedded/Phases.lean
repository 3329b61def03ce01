import Roster.Embedded.Store
import Roster.Proofs.ItemSet
import Roster.Proofs.Script

/-!
# The phases of an operation

Every operation but closing goes through the same phases: it enters the store, works in one
transaction, and ends. One that reads ends with its transaction. One that writes looks whether its
caller is still there right before it commits, and says nothing but its answer afterwards.
-/

namespace Roster

/-- The email whose record the request is to change. -/
def Request.mutated? : Request → Option String
  | .create u | .update u => some u.email
  | .delete email => some email
  | _ => none

/-- The request is to change what is stored. -/
def Request.isMutation (q : Request) : Bool := q.mutated?.isSome

namespace Embedded

open Script Operation

/-- How far an operation has got. -/
inductive Phase where
  /-- Before its transaction, which is to write or not; its work has been handed to a worker or not. -/
  | entering (writes handed : Bool)
  | reading
  | writing
  /-- The caller was there right before the commit. -/
  | committing
  /-- The caller was gone right before the commit. -/
  | aborting
  | committed
  | aborted
  deriving DecidableEq

/-- The call looks something up in the tables of a transaction. -/
def Call.looksUp {β : Type} : Call β → Bool
  | .openTable _ | .record _ | .records | .members | .membersWithin .. => true
  | _ => false

/-- The call looks something up or changes the draft of a transaction. -/
def Call.drafts {β : Type} : Call β → Bool
  | .putRecord .. | .takeRecord _ | .putMember _ | .takeMember _ => true
  | c => c.looksUp

/-- The phase after a call that was answered; none if the call has no place in a phase. -/
def Phase.next? {β : Type} : Phase → Call β → β → Option Phase
  | .entering w h, .takeHandle, _ => some (.entering w h)
  | .entering w _, .handOver, _ => some (.entering w true)
  | .entering false true, .beginRead, _ => some .reading
  | .entering true true, .beginWrite, _ => some .writing
  | .reading, c, _ => if c.looksUp then some .reading else none
  | .writing, .callerGone, gone => some (if gone then .aborting else .committing)
  | .writing, c, _ => if c.drafts then some .writing else none
  | .committing, .commit, _ => some .committed
  | .aborting, .abort, _ => some .aborted
  | _, _, _ => none

/-- An operation may end well in this phase. -/
def Phase.mayAnswer : Phase → Prop
  | .entering w _ => w = false
  | .reading | .committed => True
  | _ => False

/-- An operation may end with this error in this phase. -/
def Phase.mayFail (e : StoreError) : Phase → Prop
  | .entering .. | .reading | .writing => True
  | .aborted => e = .cancelled
  | _ => False

variable {α β : Type}

/-- From the phase on the operation keeps to the phases, and meets `post` if it ends well. -/
def Follows (post : α → Phase → Prop) : Operation α → Phase → Prop
  | .done a, p => post a p
  | .fail e, p => p.mayFail e
  | .report _ rest, p => Follows post rest p
  | .call c rest, p => ∀ b, ∃ p', p.next? c b = some p' ∧ Follows post (rest (.ok b)) p'

namespace Follows

variable {p p' : Phase} {post : α → Phase → Prop} {post' : β → Phase → Prop} {s : Operation α}
  {f : α → Operation β}

theorem bind (h : Follows post s p) (h' : ∀ a p, post a p → Follows post' (f a) p) :
    Follows post' (s >>= f) p := by
  show Follows post' (s.bind f) p
  induction s generalizing p with
  | done a => exact h' a p h
  | fail e => exact h
  | report event rest ih => exact ih h
  | call c rest ih =>
    intro b
    obtain ⟨p', hp, hrest⟩ := h b
    exact ⟨p', hp, ih (.ok b) hrest⟩

/-- A part that ends in one phase, followed by others from there. -/
theorem step (h : Follows (fun _ => (· = p')) s p) (h' : ∀ a, Follows post' (f a) p') :
    Follows post' (s >>= f) p :=
  h.bind fun a _ hp => hp ▸ h' a

theorem ask {c : Call α} (h : ∀ b, p.next? c b = some p') (name : String) :
    Follows (fun _ => (· = p')) (Operation.ask name c) p := fun b => ⟨p', h b, rfl⟩

theorem pure (a : α) : Follows (fun _ => (· = p)) (Pure.pure a : Operation α) p := rfl

theorem report (event : Log.Event) :
    Follows (fun _ => (· = p)) (Log.Reports.report event : Operation Unit) p := rfl

theorem forM {γ : Type} {g : γ → Operation Unit} (h : ∀ a, Follows (fun _ => (· = p)) (g a) p) (l : List γ) :
    Follows (fun _ => (· = p)) (l.forM g) p := by
  induction l with
  | nil => rfl
  | cons a l ih => exact (h a).step fun _ => ih

theorem mapM {γ : Type} {g : γ → Operation β} (h : ∀ a, Follows (fun _ => (· = p)) (g a) p) (l : List γ) :
    Follows (fun _ => (· = p)) (l.mapM g) p := by
  induction l with
  | nil => rfl
  | cons a l ih =>
    rw [List.mapM_cons]
    exact (h a).step fun _ => ih.step fun _ => pure _

end Follows

/-! ## Parts of operations -/

theorem follows_requireFit (reason : Option Unfit) (w : Bool) :
    Follows (fun _ => (· = .entering w false)) (requireFit reason) (.entering w false) := by
  cases reason with
  | none => exact rfl
  | some reason => exact trivial

theorem follows_enter (w : Bool) (name : String) :
    Follows (fun _ => (· = .entering w true)) (enter name) (.entering w false) := by
  refine (Follows.ask (fun _ => rfl) name).step fun isOpen => ?_
  cases isOpen with
  | true => exact .ask (fun _ => rfl) name
  | false => exact trivial

theorem follows_decodeUser {p : Phase} (hp : ∀ e, p.mayFail e) (email : String) (record : Bytes) :
    Follows (fun _ => (· = p)) (decodeUser email record) p := by
  unfold decodeUser
  cases Record.decode record with
  | ok u => exact .pure u
  | error f => exact hp _

theorem follows_syncIndex (email : String) (previous next : ItemSet String) :
    Follows (fun _ => (· = .writing)) (syncIndex email previous next) .writing := by
  have hadd (roles : ItemSet String) : Follows (fun _ => (· = .writing)) (addMembers email roles) .writing :=
    (Follows.ask (fun _ => rfl) _).step fun _ => .forM (fun _ => .ask (fun _ => rfl) _) _
  have hremove (roles : ItemSet String) :
      Follows (fun _ => (· = .writing)) (removeMembers email roles) .writing := by
    refine (Follows.ask (fun _ => rfl) _).step fun _ => .forM (fun role => ?_) _
    refine (Follows.ask (fun _ => rfl) _).step fun there => ?_
    cases there <;> exact rfl
  have hif (roles : ItemSet String) {s : Operation Unit} (hs : Follows (fun _ => (· = .writing)) s .writing) :
      Follows (fun _ => (· = .writing)) (if roles.isEmpty then pure () else s) .writing := by
    split
    · exact .pure ()
    · exact hs
  have hadjust : Follows (fun _ => (· = .writing))
      (adjustRoles previous next (removeMembers email) (addMembers email)) .writing := by
    unfold adjustRoles
    cases RoleDiff.between previous next with
    | none => exact .pure false
    | some d =>
      simp only [RoleDiff.apply_eq]
      exact Follows.step ((Follows.report _).step fun _ => (hif _ (hremove _)).step fun _ => hif _ (hadd _))
        fun _ => .pure true
  refine hadjust.step fun changed => ?_
  cases changed <;> exact rfl

theorem follows_commit (name : String) : Follows (fun _ => (· = .committed)) (commit name) .writing := by
  intro gone
  refine ⟨_, rfl, ?_⟩
  cases gone with
  | true => exact fun _ => ⟨.aborted, rfl, rfl⟩
  | false => exact fun _ => ⟨.committed, rfl, rfl⟩

/-! ## Operations -/

theorem follows_createUser (u : User) :
    Follows (fun _ => (· = .committed)) (createUser u) (.entering true false) := by
  refine (follows_requireFit _ _).step fun _ => (follows_enter _ _).step fun _ =>
    (Follows.ask (fun _ => rfl) _).step fun _ => (Follows.ask (fun _ => rfl) _).step fun _ =>
    (Follows.ask (fun _ => rfl) _).step fun found => ?_
  cases found.isSome with
  | true => exact trivial
  | false =>
    exact (Follows.ask (fun _ => rfl) _).step fun _ => (follows_syncIndex _ _ _).step fun _ =>
      (follows_commit _).step fun _ => .report _

theorem follows_updateUser (u : User) :
    Follows (fun _ => (· = .committed)) (updateUser u) (.entering true false) := by
  refine (follows_requireFit _ _).step fun _ => (follows_enter _ _).step fun _ =>
    (Follows.ask (fun _ => rfl) _).step fun _ => (Follows.ask (fun _ => rfl) _).step fun _ =>
    (Follows.ask (fun _ => rfl) _).step fun found => ?_
  cases found with
  | none => exact trivial
  | some record =>
    exact (follows_decodeUser (p := .writing) (fun _ => trivial) _ _).step fun _ => (Follows.ask (fun _ => rfl) _).step fun _ =>
      (follows_syncIndex _ _ _).step fun _ => (follows_commit _).step fun _ => .report _

theorem follows_deleteUser (email : String) :
    Follows (fun _ => (· = .committed)) (deleteUser email) (.entering true false) := by
  refine (follows_requireFit _ _).step fun _ => (follows_enter _ _).step fun _ =>
    (Follows.ask (fun _ => rfl) _).step fun _ => (Follows.ask (fun _ => rfl) _).step fun _ =>
    (Follows.ask (fun _ => rfl) _).step fun found => ?_
  cases found with
  | none => exact trivial
  | some record =>
    exact (follows_decodeUser (p := .writing) (fun _ => trivial) _ _).step fun _ => (follows_syncIndex _ _ _).step fun _ =>
      (follows_commit _).step fun _ => .report _

theorem follows_getUser (email : String) :
    Follows (fun _ => (· = .reading)) (getUser email) (.entering false false) := by
  refine (follows_requireFit _ _).step fun _ => (follows_enter _ _).step fun _ =>
    (Follows.ask (fun _ => rfl) _).step fun _ => (Follows.ask (fun _ => rfl) _).step fun _ =>
    (Follows.ask (fun _ => rfl) _).step fun found => ?_
  cases found with
  | none => exact trivial
  | some record => exact follows_decodeUser (p := .reading) (fun _ => trivial) _ _

theorem follows_getUsers : Follows (fun _ => (· = .reading)) getUsers (.entering false false) :=
  (follows_enter _ _).step fun _ => (Follows.ask (fun _ => rfl) _).step fun _ =>
    (Follows.ask (fun _ => rfl) _).step fun _ => (Follows.ask (fun _ => rfl) _).step fun _ =>
    (Follows.mapM (fun _ => follows_decodeUser (p := .reading) (fun _ => trivial) _ _) _).step fun _ => .pure _

theorem follows_followMember (role : String) (key : Bytes) :
    Follows (fun _ => (· = .reading)) (followMember role key) .reading := by
  unfold followMember
  cases splitKey? key with
  | none => exact rfl
  | some p =>
    refine (Follows.ask (fun _ => rfl) _).step fun found => ?_
    cases found with
    | none => exact rfl
    | some record => exact (follows_decodeUser (p := .reading) (fun _ => trivial) _ _).step fun _ => .pure _

theorem follows_getUsersByRole (role : String) :
    Follows (fun _ => Phase.mayAnswer) (getUsersByRole role) (.entering false false) := by
  unfold getUsersByRole
  cases hasNul role with
  | true => exact rfl
  | false =>
    exact (follows_enter _ _).step fun _ => (Follows.ask (fun _ => rfl) _).step fun _ =>
      (Follows.ask (fun _ => rfl) _).step fun _ => (Follows.ask (fun _ => rfl) _).step fun _ =>
      (Follows.ask (fun _ => rfl) _).step fun _ =>
      (Follows.mapM (fun _ => follows_followMember _ _) _).step fun _ => trivial

theorem follows_liveRoles : Follows (fun _ => (· = .reading)) liveRoles (.entering false false) :=
  (follows_enter _ _).step fun _ => (Follows.ask (fun _ => rfl) _).step fun _ =>
    (Follows.ask (fun _ => rfl) _).step fun _ => (Follows.ask (fun _ => rfl) _).step fun _ => .pure _

theorem follows_memberCount : Follows (fun _ => (· = .reading)) memberCount (.entering false false) :=
  (follows_enter _ _).step fun _ => (Follows.ask (fun _ => rfl) _).step fun _ =>
    (Follows.ask (fun _ => rfl) _).step fun _ => (Follows.ask (fun _ => rfl) _).step fun _ => .pure _

/-- Every operation but closing keeps to the phases. -/
theorem follows_ofRequest (path : String) {q : Request} (hq : q ≠ .close) :
    Follows (fun _ => Phase.mayAnswer) (ofRequest path q) (.entering q.isMutation false) := by
  cases q with
  | create u => exact (follows_createUser u).step fun _ => trivial
  | update u => exact (follows_updateUser u).step fun _ => trivial
  | delete email => exact (follows_deleteUser email).step fun _ => trivial
  | user email => exact (follows_getUser email).step fun _ => trivial
  | users => exact follows_getUsers.step fun _ => trivial
  | usersByRole role => exact (follows_getUsersByRole role).bind fun _ _ hp => hp
  | liveRoles => exact follows_liveRoles.step fun _ => trivial
  | memberCount => exact follows_memberCount.step fun _ => trivial
  | close => exact absurd rfl hq

/-! ## Calls of the engine in each phase -/

section Serving

variable {β : Type} {c : Call β}

theorem serve_ok (c : Call β) (st : Shared × Caller) : ∃ b, (serve c st).1 = .ok b := by
  obtain ⟨shared, view, gone, handed⟩ := st
  cases c with
  | commit => cases view <;> exact ⟨_, rfl⟩
  | _ => exact ⟨_, rfl⟩

/-- What is looked up depends on the transaction alone. -/
theorem serve_looksUp (hc : c.looksUp = true) (view : View) :
    ∃ b, ∀ shared gone handed,
      serve c (shared, ⟨view, gone, handed⟩) = (.ok b, shared, ⟨view, gone, handed⟩) := by
  obtain ⟨b, hb⟩ := serve_ok c (⟨true, .empty⟩, ⟨view, false, false⟩)
  refine ⟨b, fun shared gone handed => ?_⟩
  cases c with
  | openTable | record | records | members | membersWithin => cases hb; rfl
  | _ => cases hc

/-- A draft is changed by its transaction alone. -/
theorem serve_drafts (hc : c.drafts = true) (t : Tables) :
    ∃ b t', ∀ shared gone handed,
      serve c (shared, ⟨.writing t, gone, handed⟩) = (.ok b, shared, ⟨.writing t', gone, handed⟩) := by
  obtain ⟨b, hb⟩ := serve_ok c (⟨true, .empty⟩, ⟨.writing t, false, false⟩)
  refine ⟨b, (serve c (⟨true, .empty⟩, ⟨.writing t, false, false⟩)).2.2.view.tables, fun shared gone handed => ?_⟩
  cases c with
  | openTable | record | records | members | membersWithin => cases hb; rfl
  | putRecord | takeRecord | putMember | takeMember => cases hb; rfl
  | _ => cases hc

theorem next?_drafts (hc : c.drafts = true) (b : β) : Phase.writing.next? c b = some .writing := by
  cases c with
  | openTable | record | records | members | membersWithin => rfl
  | putRecord | takeRecord | putMember | takeMember => rfl
  | _ => cases hc

theorem next?_reading {b : β} {p : Phase} (h : Phase.reading.next? c b = some p) :
    c.looksUp = true ∧ p = .reading := by
  cases c with
  | openTable | record | records | members | membersWithin => cases h; exact ⟨rfl, rfl⟩
  | _ => cases h

theorem drafts_of_looksUp (hc : c.looksUp = true) : c.drafts = true := by
  cases c with
  | openTable | record | records | members | membersWithin => rfl
  | _ => cases hc

theorem serve_isOpen {b : β} {p p' : Phase} (h : p.next? c b = some p') (st : Shared × Caller) :
    (serve c st).2.1.isOpen = st.1.isOpen := by
  obtain ⟨shared, view, gone, handed⟩ := st
  cases c with
  | dropHandle => cases p <;> cases h
  | commit => cases view <;> rfl
  | _ => rfl

/-- No call is made in the last phases. -/
theorem not_follows_call {α : Type} {post : α → Phase → Prop} {p : Phase} (hp : p = .committed ∨ p = .aborted)
    {rest : Except String β → Operation α} : ¬ Follows post (.call c rest) p := by
  intro h
  obtain ⟨b, -⟩ := serve_ok c (⟨true, .empty⟩, .waiting)
  obtain ⟨p', hnext, -⟩ := h b
  rcases hp with rfl | rfl <;> cases c <;> cases hnext

end Serving

/-! ## Operations in the last phases -/

/-- An operation that only has something to report yet ends in the same way wherever it stands. -/
theorem run_over {α : Type} {post : α → Phase → Prop} {s : Operation α} {p : Phase}
    (hp : p = .committed ∨ p = .aborted) (h : Follows post s p) (st st' : Shared × Caller) :
    (s.run serve st).state = st ∧ (s.run serve st).answer = (s.run serve st').answer := by
  induction s with
  | done a => exact ⟨rfl, rfl⟩
  | fail e => exact ⟨rfl, rfl⟩
  | report event rest ih => exact ih h
  | call c rest ih => exact absurd h (not_follows_call hp)

/-- An operation that keeps to the phases leaves the store open or closed as it was. -/
theorem run_isOpen {α : Type} {post : α → Phase → Prop} {s : Operation α} {p : Phase}
    (h : Follows post s p) (st : Shared × Caller) : (s.run serve st).state.1.isOpen = st.1.isOpen := by
  induction s generalizing p st with
  | done a => rfl
  | fail e => rfl
  | report event rest ih => exact ih h st
  | call c rest ih =>
    obtain ⟨b, hb⟩ := serve_ok c st
    obtain ⟨p', hnext, hrest⟩ := h b
    rw [Script.run, hb, ih _ hrest, serve_isOpen hnext]

end Embedded

end Roster
