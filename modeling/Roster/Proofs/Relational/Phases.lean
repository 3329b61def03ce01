import Roster.Proofs.Embedded.Phases
import Roster.Proofs.Relational.Failures

/-!
# The phases of an operation on the database

Creating and updating work on the draft of one transaction and say nothing but their answer after the
commit. Deleting and reading are a single statement. A statement that fails ends the operation.
-/

namespace Roster.Relational

open Script Operation

/-- How far an operation has got. -/
inductive Phase where
  /-- Before its first statement; the operation is to write or not. -/
  | entering (writes : Bool)
  | drafting
  | committed
  /-- Its statement has found nothing to change. -/
  | refused
  | read
  deriving DecidableEq

/-- The statement is the one of an operation that reads. -/
def Call.reads {β : Type} : Call β → Bool
  | .joined _ | .liveRoles | .countRoles => true
  | _ => false

/-- The statement is made inside a transaction and does not end it. -/
def Call.drafts {β : Type} : Call β → Bool
  | .findUser _ | .insertUser .. | .setFullName .. | .rolesOf _ | .insertRoles .. | .deleteRoles .. => true
  | _ => false

/-- The phase after a call that was answered; none if the call has no place in a phase. -/
def Phase.next? {β : Type} : Phase → Call β → β → Option Phase
  | .entering w, .takeConnection, _ => some (.entering w)
  | .entering true, .begin, _ => some .drafting
  | .entering true, .deleteUser _, n => some (if n = 0 then .refused else .committed)
  | .entering false, c, _ => if c.reads then some .read else none
  | .drafting, .commit, _ => some .committed
  | .drafting, c, _ => if c.drafts then some .drafting else none
  | _, _, _ => none

/-- An operation may end well in this phase. -/
def Phase.mayAnswer : Phase → Prop
  | .entering w => w = false
  | .committed | .read => True
  | .drafting | .refused => False

variable {α β : Type}

/-- From the phase on the operation keeps to the phases, and meets `post` if it ends well. -/
def Follows (post : α → Phase → Prop) : Operation α → Phase → Prop
  | .done a, p => post a p
  | .fail _, p => p ≠ .committed
  | .report _ rest, p => Follows post rest p
  | .call c rest, p => (∀ f, ∃ e, rest (.error f) = .fail e) ∧
      ∀ b, ∃ p', p.next? c b = some p' ∧ Follows post (rest (.ok b)) p'

namespace Follows

variable {p p' : Phase} {post : α → Phase → Prop} {post' : β → Phase → Prop} {s : Operation α}
  {f : α → Operation β}

theorem bind (h : Follows post s p) (h' : ∀ a p, post a p → Follows post' (f a) p) :
    Follows post' (s >>= f) p := by
  show Follows post' (s.bind f) p
  induction s generalizing p with
  | done a => exact h' a p h
  | fail e => exact h
  | report event rest ih => exact ih h
  | call c rest ih =>
    obtain ⟨hfail, hrest⟩ := h
    refine ⟨fun fault => ?_, fun b => ?_⟩
    · obtain ⟨e, he⟩ := hfail fault
      exact ⟨e, congrArg (Script.bind · f) he⟩
    · obtain ⟨p', hp, hp'⟩ := hrest b
      exact ⟨p', hp, ih (.ok b) hp'⟩

/-- A part that ends in one phase, followed by others from there. -/
theorem step (h : Follows (fun _ => (· = p')) s p) (h' : ∀ a, Follows post' (f a) p') :
    Follows post' (s >>= f) p :=
  h.bind fun a _ hp => hp ▸ h' a

theorem ask {c : Call α} (h : ∀ b, p.next? c b = some p') (wrap : DbFault → StoreError) :
    Follows (fun _ => (· = p')) (Script.ask wrap c) p :=
  ⟨fun f => ⟨wrap f, rfl⟩, fun b => ⟨p', h b, rfl⟩⟩

theorem pure (a : α) : Follows (fun _ => (· = p)) (Pure.pure a : Operation α) p := rfl

theorem report (event : Log.Event) :
    Follows (fun _ => (· = p)) (Log.Reports.report event : Operation Unit) p := rfl

end Follows

/-! ## Parts of operations -/

theorem follows_requireFit (reason : Option Unfit) (w : Bool) :
    Follows (fun _ => (· = .entering w)) (requireFit reason) (.entering w) := by
  cases reason with
  | none => exact .pure ()
  | some reason => exact nofun

theorem follows_connection (name : String) (w : Bool) :
    Follows (fun _ => (· = .entering w)) (connection name) (.entering w) := by
  have htake : ∀ b, (Phase.entering w).next? .takeConnection b = some (.entering w) := by
    cases w <;> exact fun _ => rfl
  refine (Follows.ask htake _).step fun isOpen => ?_
  cases isOpen with
  | true => exact .pure ()
  | false => exact nofun

theorem follows_read {c : Call α} (hc : c.reads = true) (name : String) :
    Follows (fun _ => (· = .read)) (Operation.ask name c) (.entering false) := by
  refine .ask (fun _ => ?_) _
  cases c with
  | joined | liveRoles | countRoles => rfl
  | _ => cases hc

theorem follows_syncRoles (email : String) (previous next : ItemSet String) :
    Follows (fun _ => (· = .drafting)) (syncRoles email previous next) .drafting := by
  have hif (roles : ItemSet String) {s : Operation Unit} (hs : Follows (fun _ => (· = .drafting)) s .drafting) :
      Follows (fun _ => (· = .drafting)) (if roles.isEmpty then pure () else s) .drafting := by
    split
    · exact .pure ()
    · exact hs
  have hdelete (roles : ItemSet String) : Follows (fun _ => (· = .drafting)) (deleteRoles email roles) .drafting :=
    (Follows.ask (fun _ => rfl) _).step fun _ => .report _
  have hinsert (roles : ItemSet String) : Follows (fun _ => (· = .drafting)) (insertRoles email roles) .drafting :=
    .ask (fun _ => rfl) _
  have hadjust : Follows (fun _ => (· = .drafting))
      (adjustRoles previous next (deleteRoles email) (insertRoles email)) .drafting := by
    unfold adjustRoles
    cases RoleDiff.between previous next with
    | none => exact .pure false
    | some d =>
      simp only [RoleDiff.apply_eq]
      exact Follows.step ((Follows.report _).step fun _ => (hif _ (hdelete _)).step fun _ => hif _ (hinsert _))
        fun _ => .pure true
  refine hadjust.step fun changed => ?_
  cases changed with
  | true => exact .pure ()
  | false => exact .report _

/-! ## Operations -/

theorem follows_createUser (u : User) : Follows (fun _ => (· = .committed)) (createUser u) (.entering true) := by
  refine (follows_requireFit _ _).step fun _ => (follows_connection _ _).step fun _ =>
    (Follows.ask (fun _ => rfl) _).step fun _ => (Follows.ask (fun _ => rfl) _).step fun found => ?_
  cases found.isSome with
  | true => exact nofun
  | false =>
    exact (Follows.ask (fun _ => rfl) _).step fun _ => (follows_syncRoles _ _ _).step fun _ =>
      (Follows.ask (fun _ => rfl) _).step fun _ => .report _

theorem follows_updateUser (u : User) : Follows (fun _ => (· = .committed)) (updateUser u) (.entering true) := by
  refine (follows_requireFit _ _).step fun _ => (follows_connection _ _).step fun _ =>
    (Follows.ask (fun _ => rfl) _).step fun _ => (Follows.ask (fun _ => rfl) _).step fun changed => ?_
  by_cases hc : changed = 0
  · simp only [if_pos hc]
    exact nofun
  · simp only [if_neg hc]
    exact (Follows.ask (fun _ => rfl) _).step fun _ => (follows_syncRoles _ _ _).step fun _ =>
      (Follows.ask (fun _ => rfl) _).step fun _ => .report _

theorem follows_deleteUser (email : String) :
    Follows (fun _ => (· = .committed)) (deleteUser email) (.entering true) := by
  have hdelete : Follows (fun n p => p = if n = 0 then .refused else .committed)
      (Operation.ask "delete_user" (.deleteUser email)) (.entering true) :=
    ⟨fun f => ⟨_, rfl⟩, fun n => ⟨_, rfl, rfl⟩⟩
  refine (follows_requireFit _ _).step fun _ => (follows_connection _ _).step fun _ => hdelete.bind fun n p hp => ?_
  subst hp
  by_cases hn : n = 0
  · simp only [if_pos hn]
    exact nofun
  · simp only [if_neg hn]
    exact .report _

theorem follows_getUser (email : String) : Follows (fun _ => (· = .read)) (getUser email) (.entering false) := by
  refine (follows_requireFit _ _).step fun _ => (follows_connection _ _).step fun _ =>
    (follows_read rfl _).step fun rows => ?_
  cases grouped rows with
  | nil => exact nofun
  | cons group groups => exact .pure _

theorem follows_getUsersByRole (role : String) :
    Follows (fun _ => Phase.mayAnswer) (getUsersByRole role) (.entering false) := by
  unfold getUsersByRole
  cases hasNul role with
  | true => exact rfl
  | false => exact (follows_connection _ _).step fun _ => (follows_read rfl _).step fun _ => trivial

theorem follows_getUsers : Follows (fun _ => (· = .read)) getUsers (.entering false) :=
  (follows_connection _ _).step fun _ => (follows_read rfl _).step fun _ => .pure _

theorem follows_liveRoles : Follows (fun _ => (· = .read)) liveRoles (.entering false) :=
  (follows_connection _ _).step fun _ => follows_read rfl _

theorem follows_memberCount : Follows (fun _ => (· = .read)) memberCount (.entering false) :=
  (follows_connection _ _).step fun _ => follows_read rfl _

/-- Every operation but closing keeps to the phases. -/
theorem follows_ofRequest {q : Request} (hq : q ≠ .close) :
    Follows (fun _ => Phase.mayAnswer) (ofRequest q) (.entering q.isMutation) := by
  cases q with
  | create u => exact (follows_createUser u).step fun _ => trivial
  | update u => exact (follows_updateUser u).step fun _ => trivial
  | delete email => exact (follows_deleteUser email).step fun _ => trivial
  | user email => exact (follows_getUser email).step fun _ => trivial
  | users => exact follows_getUsers.step fun _ => trivial
  | usersByRole role => exact (follows_getUsersByRole role).bind fun _ _ hp => hp
  | liveRoles => exact follows_liveRoles.step fun _ => trivial
  | memberCount => exact follows_memberCount.step fun _ => trivial
  | close => exact absurd rfl hq

/-! ## Statements in each phase -/

section Serving

variable {c : Call β} {p p' : Phase} {b : β}

theorem nonempty_reply (c : Call β) : Nonempty β := by
  cases c <;> exact ⟨default⟩

theorem serve_reads (hc : c.reads = true) (shared : Shared) : ∃ r, serve c (shared, none) = (r, (shared, none)) := by
  cases c with
  | joined | liveRoles | countRoles => exact ⟨_, rfl⟩
  | _ => cases hc

/-- A statement inside a transaction changes the draft alone. -/
theorem serve_drafts (hc : c.drafts = true) (shared : Shared) (d : Database) :
    ∃ r d', serve c (shared, some d) = (r, (shared, some d')) := by
  cases c with
  | findUser | rolesOf => exact ⟨_, d, rfl⟩
  | insertUser email fullName =>
    cases h : shared.writing (d.insertUser (some email) fullName) with
    | ok d' => exact ⟨.ok (), d', by simp [serve, h]⟩
    | error f => exact ⟨.error f, d, by simp [serve, h]⟩
  | insertRoles email roles =>
    cases h : shared.writing (d.insertRoles email roles) with
    | ok d' => exact ⟨.ok (), d', by simp [serve, h]⟩
    | error f => exact ⟨.error f, d, by simp [serve, h]⟩
  | setFullName email fullName =>
    cases h : shared.writing (d.setFullName email fullName) with
    | ok changed => exact ⟨.ok changed.2, changed.1, by simp [serve, h]⟩
    | error f => exact ⟨.error f, d, by simp [serve, h]⟩
  | deleteRoles email roles =>
    cases h : shared.writing (d.deleteRoles email roles) with
    | ok changed => exact ⟨.ok changed.2, changed.1, by simp [serve, h]⟩
    | error f => exact ⟨.error f, d, by simp [serve, h]⟩
  | _ => cases hc

/-- A deletion outside of transactions deletes users, or it changes nothing. -/
theorem serve_deleteUser (email : String) (shared : Shared) :
    (∃ r, serve (.deleteUser email) (shared, none) = (r, (shared, none)) ∧ ∀ n, r = .ok n → n = 0) ∨
      ∃ n db, n ≠ 0 ∧ serve (.deleteUser email) (shared, none) = (.ok n, ({ shared with database := db }, none)) := by
  cases h : shared.writing (shared.database.deleteUser email) with
  | error f => exact .inl ⟨.error f, by simp [serve, h], nofun⟩
  | ok changed =>
    obtain ⟨db, n⟩ := changed
    by_cases hn : n = 0
    · subst hn
      obtain rfl := deleteUser_zero (writing_ok h).2
      exact .inl ⟨.ok 0, by simp [serve, h], fun n hn => (Except.ok.inj hn).symm⟩
    · exact .inr ⟨n, db, hn, by simp [serve, h]⟩

theorem next?_drafts (hc : c.drafts = true) (b : β) : Phase.drafting.next? c b = some .drafting := by
  cases c with
  | findUser | insertUser | setFullName | rolesOf | insertRoles | deleteRoles => rfl
  | _ => cases hc

theorem next?_reads (hc : c.reads = true) (b : β) : (Phase.entering false).next? c b = some .read := by
  cases c with
  | joined | liveRoles | countRoles => rfl
  | _ => cases hc

/-- Where a call leads to one phase, it leads there too when it fails, because the operation ends. -/
theorem Follows.reply {post : α → Phase → Prop} {rest : Except DbFault β → Operation α}
    (h : Follows post (.call c rest) p) (hnext : ∀ b, p.next? c b = some p') (hp : p' ≠ .committed)
    (r : Except DbFault β) : Follows post (rest r) p' := by
  obtain ⟨hfail, hrest⟩ := h
  cases r with
  | ok b =>
    obtain ⟨p'', hp'', hfollows⟩ := hrest b
    rw [hnext] at hp''
    cases hp''
    exact hfollows
  | error f =>
    obtain ⟨e, he⟩ := hfail f
    rw [he]
    exact hp

theorem serve_isOpen (h : p.next? c b = some p') (st : Shared × Draft) :
    (serve c st).2.1.isOpen = st.1.isOpen := by
  obtain ⟨shared, draft⟩ := st
  cases c with
  | dropConnection =>
    cases p with
    | entering w => cases w <;> cases h
    | _ => cases h
  | insertUser | insertRoles | setFullName | deleteRoles | deleteUser =>
    simp only [serve]
    split
    · split <;> rfl
    · rfl
  | _ => rfl

end Serving

/-! ## Operations that are over -/

/-- No call is made in these phases any more. -/
def Phase.isOver : Phase → Bool
  | .committed | .refused | .read => true
  | .entering _ | .drafting => false

theorem not_follows_call {c : Call β} {post : α → Phase → Prop} {p : Phase} (hp : p.isOver = true)
    {rest : Except DbFault β → Operation α} : ¬ Follows post (.call c rest) p := by
  rintro ⟨-, hrest⟩
  obtain ⟨b⟩ := nonempty_reply c
  obtain ⟨p', hnext, -⟩ := hrest b
  cases p with
  | committed | refused | read => cases hnext
  | _ => cases hp

/-- An operation that only has something to report yet ends in the same way wherever it stands. -/
theorem run_over {post : α → Phase → Prop} {s : Operation α} {p : Phase} (hp : p.isOver = true)
    (h : Follows post s p) (st st' : Shared × Draft) :
    (s.run serve st).state = st ∧ (s.run serve st).answer = (s.run serve st').answer := by
  induction s with
  | done a => exact ⟨rfl, rfl⟩
  | fail e => exact ⟨rfl, rfl⟩
  | report event rest ih => exact ih h
  | call c rest => exact absurd h (not_follows_call hp)

/-- An operation whose effect is there ends well. -/
theorem run_committed {post : α → Phase → Prop} {s : Operation α} (h : Follows post s .committed)
    (st : Shared × Draft) : ∃ a, (s.run serve st).answer = .ok a := by
  induction s with
  | done a => exact ⟨a, rfl⟩
  | fail e => exact absurd rfl h
  | report event rest ih => exact ih h
  | call c rest => exact absurd h (not_follows_call rfl)

/-- An operation that keeps to the phases leaves the store open or closed as it was. -/
theorem run_isOpen {post : α → Phase → Prop} {s : Operation α} {p : Phase} (h : Follows post s p)
    (st : Shared × Draft) : (s.run serve st).state.1.isOpen = st.1.isOpen := by
  induction s generalizing p st with
  | done a => rfl
  | fail e => rfl
  | report event rest ih => exact ih h st
  | call c rest ih =>
    obtain ⟨hfail, hrest⟩ := h
    rw [Script.run]
    cases hr : (serve c st).1 with
    | ok b =>
      obtain ⟨p', hnext, hp'⟩ := hrest b
      rw [ih _ hp', serve_isOpen hnext]
    | error f =>
      obtain ⟨b⟩ := nonempty_reply c
      obtain ⟨p', hnext, -⟩ := hrest b
      obtain ⟨e, he⟩ := hfail f
      rw [he]
      exact serve_isOpen hnext st

end Roster.Relational
