import Mathlib.Algebra.GroupWithZero.Nat
import Roster.Proofs.User
import Roster.Request

/-!
# The roll

What a store shows, whatever keeps it: a map from emails to names and roles, and whether the store
is still open. `Roll.serve` answers every request from that alone. A user of the roll is fit to be
stored (`Roll.Fit`), because nobody else is let in.
-/

namespace Roster

/-- What the roll says of a user. -/
structure Profile where
  fullName : String
  roles : List String
  ascending : Ascending roles

namespace Profile

/-- The user with this profile. -/
def user (x : Profile) (email : String) : User := ⟨email, x.fullName, x.roles⟩

/-- The profile of a user. -/
def ofUser (u : User) : Profile := ⟨u.fullName, u.normalized.roles, u.normalized_ascending⟩

@[simp] theorem user_email (x : Profile) (email : String) : (x.user email).email = email := rfl

@[simp] theorem user_roles (x : Profile) (email : String) : (x.user email).roles = x.roles := rfl

theorem user_inj {x y : Profile} {email : String} : x.user email = y.user email ↔ x = y := by
  cases x
  cases y
  simp [user]

@[simp] theorem ofUser_roles (u : User) : (ofUser u).roles = u.normalized.roles := rfl

end Profile

/-- Names and roles by email. -/
abbrev Entries := KeyTable String Profile

/-- What a store shows. -/
structure Roll where
  /-- The store has not been closed. -/
  isOpen : Bool
  entries : Entries

/-- The user whom the request leaves behind if it is done; none if it leaves nobody. -/
def Request.stored? : Request → Option User
  | .create u | .update u => some u
  | _ => none

namespace Roll

/-- The roll of a store that is new. -/
def new : Roll := ⟨true, .empty⟩

/-- The users, by email. -/
def users (r : Roll) : List User := r.entries.rows.map fun row => row.2.user row.1

/-- The users that hold a role, by email. -/
def holders (r : Roll) (role : String) : List User := r.users.filter fun u => u.roles.contains role

/-- The roles that some user holds, ascending. -/
def rolesHeld (r : Roll) : List String := ascendingTexts (r.users.flatMap (·.roles))

/-- The number of roles held, summed over the users. -/
def memberCount (r : Roll) : Nat := (r.users.map fun u => u.roles.length).sum

/-- The roll with a user's entry put in place of what it said of that email. -/
def put (r : Roll) (u : User) : Roll := { r with entries := r.entries.insert u.email (.ofUser u) }

/-- The roll without an email. -/
def drop (r : Roll) (email : String) : Roll := { r with entries := r.entries.erase email }

@[simp] theorem has_drop (r : Roll) (email : String) : (r.drop email).entries.has email = false := by
  simp [drop, KeyTable.has_erase]

/-- Who is put in replaces what was said before, also if that had been dropped. -/
theorem put_drop (r : Roll) (u : User) : (r.drop u.email).put u = r.put u :=
  congrArg (Roll.mk r.isOpen) (KeyTable.insert_erase ..)

/-- The answer that a request gets from its form alone. -/
def answerAtOnce? : Request → Option (Except StoreError Answer)
  | .create u | .update u => u.unfit?.map fun reason => .error reason.toError
  | .delete email | .user email => (unfitEmail? email).map fun reason => .error reason.toError
  | .usersByRole role => if hasNul role then some (.ok (.users [])) else none
  | .users | .liveRoles | .memberCount | .close => none

/-- The answer of an open roll to a request of good form, and the roll afterwards. -/
def answer (r : Roll) : Request → Except StoreError Answer × Roll
  | .create u =>
    match r.entries.find? u.email with
    | some _ => (.error .userAlreadyExists, r)
    | none => (.ok .done, r.put u)
  | .update u =>
    match r.entries.find? u.email with
    | some _ => (.ok .done, r.put u)
    | none => (.error .userNotFound, r)
  | .delete email =>
    match r.entries.find? email with
    | some _ => (.ok .done, r.drop email)
    | none => (.error .userNotFound, r)
  | .user email =>
    match r.entries.find? email with
    | some x => (.ok (.user (x.user email)), r)
    | none => (.error .userNotFound, r)
  | .users => (.ok (.users r.users), r)
  | .usersByRole role => (.ok (.users (r.holders role)), r)
  | .liveRoles => (.ok (.roles r.rolesHeld), r)
  | .memberCount => (.ok (.count r.memberCount), r)
  | .close => (.ok .done, { r with isOpen := false })

/-- What a request makes of an open roll. -/
theorem answer_snd (r : Roll) (q : Request) :
    (r.answer q).2 =
      match q with
      | .create u => if r.entries.has u.email then r else r.put u
      | .update u => if r.entries.has u.email then r.put u else r
      | .delete email => if r.entries.has email then r.drop email else r
      | .close => { r with isOpen := false }
      | .user _ | .users | .usersByRole _ | .liveRoles | .memberCount => r := by
  cases q with
  | create u | update u =>
    simp only [answer, KeyTable.has_eq]
    cases r.entries.find? u.email <;> rfl
  | delete email =>
    simp only [answer, KeyTable.has_eq]
    cases r.entries.find? email <;> rfl
  | user email =>
    rw [answer]
    cases r.entries.find? email <;> rfl
  | users | usersByRole role | liveRoles | memberCount | close => rfl

/-- The answer to a request, and the roll afterwards. The form of a request is looked at first. -/
def serve (r : Roll) (q : Request) : Except StoreError Answer × Roll :=
  match answerAtOnce? q with
  | some a => (a, r)
  | none => if r.isOpen then r.answer q else (.error .closed, r)

theorem serve_eq_answer {r : Roll} {q : Request} (hq : answerAtOnce? q = none) (hopen : r.isOpen = true) :
    r.serve q = r.answer q := by
  rw [serve, hq]
  simp [hopen]

/-- What a request can make of a roll. -/
inductive Becomes (r : Roll) : Request → Roll → Prop
  | same (q : Request) : Becomes r q r
  | created {u : User} (hu : u.unfit? = none) (hnew : r.entries.has u.email = false) :
    Becomes r (.create u) (r.put u)
  | updated {u : User} (hu : u.unfit? = none) (hthere : r.entries.has u.email = true) :
    Becomes r (.update u) (r.put u)
  | dropped (email : String) : Becomes r (.delete email) (r.drop email)
  | closed : Becomes r .close { r with isOpen := false }

/-- Whatever is asked, the roll becomes what the request can make of it, or stays. -/
theorem becomes (r : Roll) (q : Request) : Becomes r q (r.serve q).2 := by
  unfold serve
  cases hq : answerAtOnce? q with
  | some a => exact .same q
  | none =>
  cases r.isOpen with
  | false => exact .same q
  | true =>
  simp only [if_true, answer_snd]
  cases q with
  | create u =>
    have hu : u.unfit? = none := by simpa [answerAtOnce?] using hq
    dsimp only
    split
    · exact .same _
    · exact .created hu (Bool.eq_false_iff.2 ‹_›)
  | update u =>
    have hu : u.unfit? = none := by simpa [answerAtOnce?] using hq
    dsimp only
    split
    · exact .updated hu ‹_›
    · exact .same _
  | delete email =>
    dsimp only
    split
    · exact .dropped email
    · exact .same _
  | close => exact .closed
  | user email | users | usersByRole role | liveRoles | memberCount => exact .same _

/-- What a request gets for its form is an answer or the reason why it is unfit. -/
theorem error_of_atOnce {q : Request} {e : StoreError} (h : answerAtOnce? q = some (.error e)) :
    ∃ reason, e = .validation reason := by
  cases q with
  | create u | update u | delete email | user email =>
    obtain ⟨reason, -, hreason⟩ := Option.map_eq_some_iff.1 h
    cases hreason
    exact ⟨reason.reason, rfl⟩
  | usersByRole role =>
    simp only [answerAtOnce?] at h
    split at h <;> cases h
  | users | liveRoles | memberCount | close => cases h

/-- An open roll refuses who is there already, and who is not there. -/
theorem error_of_answer {r : Roll} {q : Request} {e : StoreError} (h : (r.answer q).1 = .error e) :
    e = .userNotFound ∨ e = .userAlreadyExists := by
  cases q with
  | create u =>
    rw [answer] at h
    split at h <;> cases h
    exact .inr rfl
  | update u | delete email | user email =>
    rw [answer] at h
    split at h <;> cases h
    exact .inl rfl
  | users | usersByRole role | liveRoles | memberCount | close => cases h

theorem error_of_serve {r : Roll} {q : Request} {e : StoreError} (h : (r.serve q).1 = .error e) :
    (e = .userNotFound ∨ e = .userAlreadyExists ∨ ∃ reason, e = .validation reason) ∨
      e = .closed ∧ r.isOpen = false := by
  unfold serve at h
  cases ha : answerAtOnce? q with
  | some a =>
    rw [ha] at h
    obtain rfl : a = .error e := h
    exact .inl (.inr (.inr (error_of_atOnce ha)))
  | none =>
    cases hopen : r.isOpen with
    | false =>
      simp only [ha, hopen, Bool.false_eq_true, if_false] at h
      cases h
      exact .inr ⟨rfl, rfl⟩
    | true =>
      simp only [ha, hopen, if_true] at h
      exact .inl ((error_of_answer h).imp_right .inl)

/-- The answers to requests in turn. -/
def answers : Roll → List Request → List (Except StoreError Answer)
  | _, [] => []
  | r, q :: qs => (r.serve q).1 :: (r.serve q).2.answers qs

/-! ## Requests that are granted -/

section Granted

variable {r : Roll} {u v : User} {email : String}

theorem serve_create (hopen : r.isOpen = true) (hu : u.unfit? = none)
    (hnew : r.entries.has u.email = false) : r.serve (.create u) = (.ok .done, r.put u) := by
  rw [KeyTable.has_eq_false_iff] at hnew
  rw [serve_eq_answer (by simp [answerAtOnce?, hu]) hopen, answer, hnew]

theorem serve_update (hopen : r.isOpen = true) (hu : u.unfit? = none)
    (hthere : r.entries.has u.email = true) : r.serve (.update u) = (.ok .done, r.put u) := by
  obtain ⟨x, hx⟩ := KeyTable.has_iff_exists.1 hthere
  rw [serve_eq_answer (by simp [answerAtOnce?, hu]) hopen, answer, hx]

theorem serve_delete (hopen : r.isOpen = true) (he : unfitEmail? email = none)
    (hthere : r.entries.has email = true) : r.serve (.delete email) = (.ok .done, r.drop email) := by
  obtain ⟨x, hx⟩ := KeyTable.has_iff_exists.1 hthere
  rw [serve_eq_answer (by simp [answerAtOnce?, he]) hopen, answer, hx]

theorem serve_user (hopen : r.isOpen = true) (he : unfitEmail? email = none) :
    (r.serve (.user email)).1 =
      match r.entries.find? email with
      | some x => .ok (.user (x.user email))
      | none => .error .userNotFound := by
  rw [serve_eq_answer (by simp [answerAtOnce?, he]) hopen, answer]
  cases r.entries.find? email <;> rfl

/-- An update is only granted by an open roll that has the user. -/
theorem of_serve_update (h : (r.serve (.update u)).1 = .ok .done) :
    r.isOpen = true ∧ u.unfit? = none ∧ r.entries.has u.email = true := by
  unfold serve at h
  rw [KeyTable.has_eq]
  cases hu : u.unfit? with
  | some reason => simp [answerAtOnce?, hu] at h
  | none =>
    cases hopen : r.isOpen with
    | false => simp [answerAtOnce?, hu, hopen] at h
    | true =>
      cases hx : r.entries.find? u.email with
      | none => simp [answerAtOnce?, hu, hopen, answer, hx] at h
      | some x => exact ⟨rfl, rfl, rfl⟩

/-- A user is only shown by an open roll that has it. -/
theorem of_serve_user (h : (r.serve (.user email)).1 = .ok (.user v)) :
    r.isOpen = true ∧ ∃ x, r.entries.find? email = some x ∧ v = x.user email := by
  unfold serve at h
  cases he : unfitEmail? email with
  | some reason => simp [answerAtOnce?, he] at h
  | none =>
    cases hopen : r.isOpen with
    | false => simp [answerAtOnce?, he, hopen] at h
    | true =>
      cases hx : r.entries.find? email with
      | none => simp [answerAtOnce?, he, hopen, answer, hx] at h
      | some x =>
        simp only [answerAtOnce?, he, Option.map_none, hopen, if_true, answer, hx] at h
        cases h
        exact ⟨rfl, x, rfl, rfl⟩

end Granted

/-! ## Who is listed -/

variable {r : Roll} {u : User} {role : String}

theorem mem_users : u ∈ r.users ↔ ∃ x, r.entries.find? u.email = some x ∧ u = x.user u.email := by
  simp only [users, List.mem_map, KeyTable.find?_eq_some, Prod.exists]
  constructor
  · rintro ⟨email, x, hx, rfl⟩
    exact ⟨x, hx, rfl⟩
  · rintro ⟨x, hx, hu⟩
    exact ⟨u.email, x, hx, hu.symm⟩

theorem mem_holders : u ∈ r.holders role ↔ u ∈ r.users ∧ role ∈ u.roles := by simp [holders]

theorem map_email_users : r.users.map (·.email) = r.entries.keys := by simp [users, KeyTable.keys]

/-- The users of one email. -/
theorem filter_email (email : String) :
    (r.users.filter fun u => u.email = email) =
      ((r.entries.find? email).map fun x => x.user email).toList := by
  have hrows : r.entries.rows.filter ((fun u : User => u.email = email) ∘ fun row => row.2.user row.1) =
      ((r.entries.find? email).map fun x => (email, x)).toList := r.entries.filter_key email
  rw [users, List.filter_map, hrows]
  cases r.entries.find? email <;> rfl

theorem users_ascending : Ascending (r.users.map (·.email)) := map_email_users ▸ r.entries.keys_ascending

theorem holders_ascending (r : Roll) (role : String) : Ascending ((r.holders role).map (·.email)) :=
  users_ascending.sublist (List.filter_sublist.map _)

/-! ## Who is let in -/

/-- Everybody on the roll is fit to be stored. -/
def Fit (r : Roll) : Prop :=
  ∀ email x, r.entries.find? email = some x → (x.user email).unfit? = none

theorem fit_new : new.Fit := by
  intro email x h
  simp [new] at h

theorem fit_put {r : Roll} {u : User} (h : r.Fit) (hu : u.unfit? = none) : (r.put u).Fit := by
  intro email x hx
  rw [put, KeyTable.find?_insert] at hx
  split at hx
  · rename_i he
    subst he
    cases hx
    exact User.unfit?_normalized hu
  · exact h email x hx

theorem fit_drop {r : Roll} {email : String} (h : r.Fit) : (r.drop email).Fit := by
  intro email' x hx
  rw [drop, KeyTable.find?_erase] at hx
  split at hx
  · cases hx
  · exact h email' x hx

/-- Who is on the roll after a request was there before, or is the user that the request stores. -/
theorem find?_serve {r : Roll} {q : Request} {email : String} {x : Profile}
    (h : (r.serve q).2.entries.find? email = some x) : r.entries.find? email = some x ∨
      ∃ u, q.stored? = some u ∧ u.unfit? = none ∧ u.email = email ∧ x = .ofUser u := by
  have hput {u : User} (h : (r.put u).entries.find? email = some x) :
      r.entries.find? email = some x ∨ u.email = email ∧ x = .ofUser u := by
    rw [put, KeyTable.find?_insert] at h
    split at h
    · rename_i he
      cases h
      exact .inr ⟨he.symm, rfl⟩
    · exact .inl h
  have hbecomes := r.becomes q
  generalize (r.serve q).2 = r' at h hbecomes
  cases hbecomes with
  | same | closed => exact .inl h
  | created hu | updated hu => exact (hput h).imp_right fun hx => ⟨_, rfl, hu, hx⟩
  | dropped email' =>
    rw [drop, KeyTable.find?_erase] at h
    split at h
    · cases h
    · exact .inl h

theorem fit_serve {r : Roll} (h : r.Fit) (q : Request) : (r.serve q).2.Fit := by
  intro email x hx
  rcases find?_serve hx with hx | ⟨u, -, hu, rfl, rfl⟩
  · exact h email x hx
  · exact User.unfit?_normalized hu

end Roll

end Roster
