import Roster.Embedded.Store
import Roster.Proofs.Embedded.Lookup

/-!
# The embedded store shows a roll

While its tables keep the entries of a roll, the embedded store answers every request as the roll
does, and its tables keep the entries of the roll afterwards. A caller that has gone away finds its
mutation either made in full or not at all. None of the store's remedies for an inconsistent index
is ever used.
-/

namespace Roster.Embedded

open Log Script Operation

/-- What all callers share shows a roll. -/
structure Shows (shared : Shared) (r : Roll) : Prop where
  isOpen : shared.isOpen = r.isOpen
  keeps : Keeps shared.tables r.entries
  fit : r.Fit

/-- What is only reported when index and users do not go together. -/
def isRemedy : Event → Bool
  | .entryMissing .. | .undecodableKey .. | .danglingEntry .. => true
  | _ => false

/-- What is left of a request is what the roll says. A mutation whose caller has gone may have been
cancelled instead, without an effect. -/
structure Serves (r : Roll) (q : Request) (gone : Bool)
    (o : Outcome (Shared × Caller) StoreError Answer) : Prop where
  effect : o.answer = (r.serve q).1 ∧ Shows o.state.1 (r.serve q).2 ∨
    gone = true ∧ o.answer = .error .cancelled ∧ Shows o.state.1 r
  consistent : ∀ event ∈ o.events, isRemedy event = false

variable {shared : Shared} {r r' : Roll} {q : Request} {path : String} {view : View} {gone handed : Bool}

/-! ## Refusals -/

theorem run_atOnce {a : Except StoreError Answer} (h : Roll.answerAtOnce? q = some a)
    (st : Shared × Caller) : (ofRequest path q).run serve st = ⟨a, st, []⟩ := by
  cases q with
  | create u =>
    obtain ⟨reason, hu, rfl⟩ := Option.map_eq_some_iff.1 h
    rw [ofRequest, run_bind, createUser, createUserBy, hu, run_unfit]
    rfl
  | update u =>
    obtain ⟨reason, hu, rfl⟩ := Option.map_eq_some_iff.1 h
    rw [ofRequest, run_bind, updateUser, updateUserBy, hu, run_unfit]
    rfl
  | delete email =>
    obtain ⟨reason, he, rfl⟩ := Option.map_eq_some_iff.1 h
    rw [ofRequest, run_bind, deleteUser, deleteUserBy, he, run_unfit]
    rfl
  | user email =>
    obtain ⟨reason, he, rfl⟩ := Option.map_eq_some_iff.1 h
    rw [ofRequest, run_bind, getUser, he, run_unfit]
    rfl
  | usersByRole role =>
    simp only [Roll.answerAtOnce?] at h
    split at h
    · cases h
      rw [ofRequest, run_bind, getUsersByRole, if_pos ‹_›]
      rfl
    · cases h
  | users | liveRoles | memberCount | close => cases h

/-- A closed store takes no operation in. -/
theorem run_enter_closed {α : Type} (hclosed : shared.isOpen = false) (name : String)
    (body : Unit → Operation α) :
    (enter name >>= body).run serve (shared, ⟨view, gone, handed⟩) =
      ⟨.error .closed, (shared, ⟨view, gone, handed⟩), []⟩ := by
  rw [run_bind, run_enter, hclosed]
  rfl

theorem run_closed (h : Roll.answerAtOnce? q = none) (hclosed : shared.isOpen = false) :
    (ofRequest path q).run serve (shared, ⟨view, gone, handed⟩) =
      ⟨.error .closed, (shared, ⟨view, gone, handed⟩), []⟩ := by
  cases q with
  | create u =>
    have hu : u.unfit? = none := by simpa [Roll.answerAtOnce?] using h
    rw [ofRequest, run_bind, createUser, createUserBy, hu, run_fit]
    simp only [run_enter_closed hclosed, andThen_error]
  | update u =>
    have hu : u.unfit? = none := by simpa [Roll.answerAtOnce?] using h
    rw [ofRequest, run_bind, updateUser, updateUserBy, hu, run_fit]
    simp only [run_enter_closed hclosed, andThen_error]
  | delete email =>
    have he : unfitEmail? email = none := by simpa [Roll.answerAtOnce?] using h
    rw [ofRequest, run_bind, deleteUser, deleteUserBy, he, run_fit]
    simp only [run_enter_closed hclosed, andThen_error]
  | user email =>
    have he : unfitEmail? email = none := by simpa [Roll.answerAtOnce?] using h
    rw [ofRequest, run_bind, getUser, he, run_fit]
    simp only [run_enter_closed hclosed, andThen_error]
  | usersByRole role =>
    have hrole : hasNul role = false := by simpa [Roll.answerAtOnce?] using h
    rw [ofRequest, run_bind, getUsersByRole, hrole]
    simp only [Bool.false_eq_true, if_false, run_enter_closed hclosed, andThen_error]
  | users => rw [ofRequest, run_bind, getUsers, run_enter_closed hclosed]; rfl
  | liveRoles => rw [ofRequest, run_bind, liveRoles, run_enter_closed hclosed]; rfl
  | memberCount => rw [ofRequest, run_bind, memberCount, run_enter_closed hclosed]; rfl
  | close =>
    obtain ⟨isOpen, tables⟩ := shared
    cases hclosed
    rfl

/-! ## Work -/

/-- A request that leaves the roll as it was is served by leaving the tables as they were. -/
theorem Shows.unchanged (h : Shows shared r) {a : Except StoreError Answer} (hq : r.serve q = (a, r))
    {caller : Caller} {events : List Event} (he : ∀ event ∈ events, isRemedy event = false) :
    Serves r q gone ⟨a, (shared, caller), events⟩ where
  effect := .inl ⟨by rw [hq], by rw [hq]; exact h⟩
  consistent := he

variable {users : KeyTable String Bytes} {email : String} {previous next : ItemSet String} {event : Event}

/-- A mutation that was written serves its request, whether or not it was committed. -/
theorem Shows.finished (h : Shows shared r) (hq : r.serve q = (.ok .done, r'))
    (h' : Shows { shared with tables := ⟨users, synced shared.tables.index email previous next⟩ } r')
    (hp : ∀ role ∈ previous.items, IsMember r.entries (memberKey role email))
    (hevent : isRemedy event = false) (name : String) :
    Serves r q gone ((finished shared gone users name email previous next event).andThen
      fun _ st => ⟨.ok .done, st, []⟩) := by
  have hsync : ∀ event ∈ syncReports shared.tables.index email previous next, isRemedy event = false := by
    rcases syncReports_of_present fun role hr => h.keeps.find?_index (hp role hr) with he | ⟨m, n, he⟩
    all_goals
      rw [he]
      simp [isRemedy]
  unfold Operation.finished
  cases gone with
  | true =>
    refine ⟨.inr ⟨rfl, rfl, h⟩, fun event he => ?_⟩
    rcases List.mem_append.1 he with he | he
    · exact hsync event he
    · cases List.mem_singleton.1 he
      rfl
  | false =>
    refine ⟨.inl ⟨by rw [hq]; rfl, by rw [hq]; exact h'⟩, fun event he => ?_⟩
    simp only [Bool.false_eq_true, if_false, andThen_ok, List.append_nil] at he
    rcases List.mem_append.1 he with he | he
    · exact hsync event he
    · cases List.mem_singleton.1 he
      exact hevent

/-- The tables keep an entry that was put in place of what they kept. -/
theorem Shows.put (h : Shows shared r) {u : User} (hu : u.unfit? = none) {previous : ItemSet String}
    (hp : ∀ role, role ∈ previous.items ↔ ∃ x, r.entries.find? u.email = some x ∧ role ∈ x.roles) :
    Shows { shared with
      tables := ⟨shared.tables.users.insert u.email (Record.encode u.normalized),
        synced shared.tables.index u.email previous u.normalized.roleSet⟩ } (r.put u) where
  isOpen := h.isOpen
  fit := Roll.fit_put h.fit hu
  keeps := by
    have hfind (email : String) : (r.put u).entries.find? email =
        if email = u.email then some (.ofUser u) else r.entries.find? email :=
      KeyTable.find?_insert ..
    refine h.keeps.change (separable_of_fit h.fit) (fun email he => by rw [hfind, if_neg he]) ?_ hp ?_
    · intro email
      rw [KeyTable.find?_insert, hfind, if_pos rfl]
      rfl
    · intro role
      rw [hfind, if_pos rfl]
      simp

/-- The tables keep the other entries once one was dropped. -/
theorem Shows.drop (h : Shows shared r) {email : String} {previous : ItemSet String}
    (hp : ∀ role, role ∈ previous.items ↔ ∃ x, r.entries.find? email = some x ∧ role ∈ x.roles) :
    Shows { shared with
      tables := ⟨shared.tables.users.erase email, synced shared.tables.index email previous .empty⟩ }
      (r.drop email) where
  isOpen := h.isOpen
  fit := Roll.fit_drop h.fit
  keeps := by
    have hfind (email' : String) : (r.drop email).entries.find? email' =
        if email' = email then none else r.entries.find? email' :=
      KeyTable.find?_erase ..
    refine h.keeps.change (separable_of_fit h.fit) (fun email' he => by rw [hfind, if_neg he]) ?_ hp ?_
    · intro email'
      rw [KeyTable.find?_erase, hfind, if_pos rfl]
      rfl
    · intro role
      rw [hfind, if_pos rfl]
      simp

/-- The roles before a mutation, read from the record. -/
theorem mem_roleSet_user {x : Profile} (hx : r.entries.find? email = some x) (role : String) :
    role ∈ (x.user email).roleSet.items ↔ ∃ x, r.entries.find? email = some x ∧ role ∈ x.roles := by
  simp [hx]

theorem isMember_of_roleSet {x : Profile} (hx : r.entries.find? email = some x) {role : String}
    (hr : role ∈ (x.user email).roleSet.items) : IsMember r.entries (memberKey role email) :=
  ⟨email, x, hx, role, by simpa using hr, rfl⟩

section Requests

variable (h : Shows shared r) (hopen : shared.isOpen = true)

include h hopen

theorem Shows.serve_eq (hq : Roll.answerAtOnce? q = none) : r.serve q = r.answer q :=
  Roll.serve_eq_answer hq (h.isOpen ▸ hopen)

theorem Shows.serves_create {u : User} (hu : u.unfit? = none) :
    Serves r (.create u) gone ((ofRequest path (.create u)).run serve (shared, ⟨view, gone, handed⟩)) := by
  have hserve : r.serve (.create u) = r.answer (.create u) := h.serve_eq hopen (by simp [Roll.answerAtOnce?, hu])
  rw [ofRequest, run_bind, run_createUser _ _ _ hu hopen, h.keeps.users]
  rw [Roll.answer] at hserve
  cases hx : r.entries.find? u.email with
  | some x =>
    rw [hx] at hserve
    exact h.unchanged hserve (by simp)
  | none =>
    rw [hx] at hserve
    exact h.finished hserve (h.put hu (by simp [hx])) (by simp) rfl _

theorem Shows.serves_update {u : User} (hu : u.unfit? = none) :
    Serves r (.update u) gone ((ofRequest path (.update u)).run serve (shared, ⟨view, gone, handed⟩)) := by
  have hserve : r.serve (.update u) = r.answer (.update u) := h.serve_eq hopen (by simp [Roll.answerAtOnce?, hu])
  rw [ofRequest, run_bind, run_updateUser _ _ _ hu hopen, h.keeps.users]
  rw [Roll.answer] at hserve
  cases hx : r.entries.find? u.email with
  | none =>
    rw [hx] at hserve
    exact h.unchanged hserve (by simp)
  | some x =>
    rw [hx] at hserve
    simp only [Option.map_some, Record.decode_encode]
    exact h.finished hserve (h.put hu (mem_roleSet_user hx)) (fun _ => isMember_of_roleSet hx) rfl _

theorem Shows.serves_delete (he : unfitEmail? email = none) :
    Serves r (.delete email) gone
      ((ofRequest path (.delete email)).run serve (shared, ⟨view, gone, handed⟩)) := by
  have hserve : r.serve (.delete email) = r.answer (.delete email) :=
    h.serve_eq hopen (by simp [Roll.answerAtOnce?, he])
  rw [ofRequest, run_bind, run_deleteUser _ _ _ he hopen, h.keeps.users]
  rw [Roll.answer] at hserve
  cases hx : r.entries.find? email with
  | none =>
    rw [hx] at hserve
    exact h.unchanged hserve (by simp)
  | some x =>
    rw [hx] at hserve
    simp only [Option.map_some, Record.decode_encode]
    exact h.finished hserve (h.drop (mem_roleSet_user hx)) (fun _ => isMember_of_roleSet hx) rfl _

theorem Shows.serves_user (he : unfitEmail? email = none) :
    Serves r (.user email) gone ((ofRequest path (.user email)).run serve (shared, ⟨view, gone, handed⟩)) := by
  have hserve : r.serve (.user email) = r.answer (.user email) :=
    h.serve_eq hopen (by simp [Roll.answerAtOnce?, he])
  rw [ofRequest, run_bind, run_getUser _ _ _ he hopen, h.keeps.users]
  rw [Roll.answer] at hserve
  cases hx : r.entries.find? email with
  | none =>
    rw [hx] at hserve
    exact h.unchanged hserve (by simp)
  | some x =>
    rw [hx] at hserve
    simp only [Option.map_some, Record.decode_encode]
    exact h.unchanged hserve (by simp)

/-- Every key found for a role leads to a user who holds it, and nothing has to be reported. -/
theorem Shows.serves_usersByRole {role : String} (hrole : hasNul role = false) :
    Serves r (.usersByRole role) gone
      ((ofRequest path (.usersByRole role)).run serve (shared, ⟨view, gone, handed⟩)) := by
  have hserve : r.serve (.usersByRole role) = r.answer (.usersByRole role) :=
    h.serve_eq hopen (by simp [Roll.answerAtOnce?, hrole])
  have hlead : List.Forall₂ (LeadsTo shared.tables) ((r.holders role).map fun u => memberKey role u.email)
      ((r.holders role).map some) := by
    rw [List.forall₂_map_left_iff, List.forall₂_map_right_iff, List.forall₂_same]
    exact fun u hu => h.keeps.leadsTo hrole (Roll.mem_holders.1 hu).1
  rw [ofRequest, run_bind,
    run_getUsersByRole _ _ _ hopen hrole (h.keeps.keysWithin_eq (separable_of_fit h.fit) hrole) hlead,
    List.filterMap_map, Function.id_comp, List.filterMap_some, sortUsers_of_ascending (r.holders_ascending role)]
  refine h.unchanged hserve fun event he => ?_
  simp only [List.mem_flatMap, List.mem_map, List.append_nil, run_pure] at he
  obtain ⟨_, ⟨u, hu, rfl⟩, he⟩ := he
  rw [h.keeps.followReports_eq hrole (Roll.mem_holders.1 hu).1] at he
  cases he

theorem Shows.serves_close :
    Serves r .close gone ((ofRequest path .close).run serve (shared, ⟨view, gone, handed⟩)) := by
  have hserve : r.serve .close = r.answer .close := h.serve_eq hopen rfl
  obtain ⟨isOpen, tables⟩ := shared
  cases hopen
  refine ⟨.inl ⟨by rw [hserve]; rfl, by rw [hserve]; exact ⟨rfl, h.keeps, h.fit⟩⟩, fun event he => ?_⟩
  cases List.mem_singleton.1 he
  rfl

end Requests

/-- A store that shows a roll serves every request as the roll does. -/
theorem Shows.serves (h : Shows shared r) (q : Request) (path : String) (view : View) (gone handed : Bool) :
    Serves r q gone ((ofRequest path q).run serve (shared, ⟨view, gone, handed⟩)) := by
  cases hq : Roll.answerAtOnce? q with
  | some a =>
    rw [run_atOnce hq]
    exact h.unchanged (by rw [Roll.serve, hq]) (by simp)
  | none =>
  cases hopen : shared.isOpen with
  | false =>
    rw [run_closed hq hopen]
    exact h.unchanged (by rw [Roll.serve, hq]; simp [← h.isOpen, hopen]) (by simp)
  | true =>
  have hserve := h.serve_eq hopen hq
  have hsep := separable_of_fit h.fit
  cases q with
  | create u => exact h.serves_create hopen (by simpa [Roll.answerAtOnce?] using hq)
  | update u => exact h.serves_update hopen (by simpa [Roll.answerAtOnce?] using hq)
  | delete email => exact h.serves_delete hopen (by simpa [Roll.answerAtOnce?] using hq)
  | user email => exact h.serves_user hopen (by simpa [Roll.answerAtOnce?] using hq)
  | usersByRole role => exact h.serves_usersByRole hopen (by simpa [Roll.answerAtOnce?] using hq)
  | users =>
    rw [ofRequest, run_bind, run_getUsers _ _ _ hopen h.keeps.forall₂_users,
      sortUsers_of_ascending r.users_ascending]
    exact h.unchanged hserve (by simp)
  | liveRoles =>
    rw [ofRequest, run_bind, run_liveRoles _ _ _ hopen, h.keeps.rolesInTurn_eq hsep]
    exact h.unchanged hserve (by simp)
  | memberCount =>
    rw [ofRequest, run_bind, run_memberCount _ _ _ hopen, h.keeps.length_keys hsep]
    exact h.unchanged hserve (by simp)
  | close => exact h.serves_close hopen

end Roster.Embedded
