import Roster.Proofs.Reachable

/-!
# Requests with the same roles

In what order a request lists the roles of its user, and how often, makes no difference. The request is fit
or unfit all the same, its normal form is the same, and so either store does the same with it. Only the reason
for which it is unfit may be another one, because the first unfit role is the one that is named.
-/

namespace Roster

namespace User

variable {u v : User}

/-- Users with the same email and name that hold the same roles, in whatever order and however often these
are listed. -/
structure SameRequest (u v : User) : Prop where
  email : u.email = v.email
  fullName : u.fullName = v.fullName
  roles (role : String) : role ∈ u.roles ↔ role ∈ v.roles

theorem SameRequest.fit_iff (h : u.SameRequest v) : u.unfit? = none ↔ v.unfit? = none := by
  rw [unfit?_eq_none, unfit?_eq_none, h.email, h.fullName]
  simp only [h.roles]

/-- The normal form keeps what is said and forgets how it is said. -/
theorem normalized_eq_iff : u.normalized = v.normalized ↔ u.SameRequest v := by
  constructor
  · intro h
    have hemail : u.normalized.email = v.normalized.email := by rw [h]
    have hname : u.normalized.fullName = v.normalized.fullName := by rw [h]
    refine ⟨hemail, hname, fun role => ?_⟩
    rw [← u.mem_normalized, h, v.mem_normalized]
  · intro h
    have hroles : u.normalized.roles = v.normalized.roles := by
      refine u.normalized_ascending.ext v.normalized_ascending fun role => ?_
      rw [mem_normalized, mem_normalized, h.roles]
    calc u.normalized = ⟨u.email, u.fullName, u.normalized.roles⟩ := rfl
      _ = ⟨v.email, v.fullName, v.normalized.roles⟩ := by rw [h.email, h.fullName, hroles]
      _ = v.normalized := rfl

theorem normalized_normalized (u : User) : u.normalized.normalized = u.normalized :=
  normalized_eq_iff.2 ⟨rfl, rfl, fun _ => u.mem_normalized⟩

/-- The set of roles has as many elements as the normal form lists. -/
theorem size_roleSet (u : User) : u.roleSet.size = u.normalized.roles.length := by
  refine List.Perm.length_eq ?_
  refine (List.perm_ext_iff_of_nodup u.roleSet.nodup u.normalized_ascending.nodup).2 fun role => ?_
  rw [mem_roleSet, mem_normalized]

end User

/-! ## In the stores -/

/-- The request stores what it says of a user. -/
def Request.Stores (q : User → Request) : Prop := q = .create ∨ q = .update

theorem Request.Stores.atOnce {q : User → Request} (hq : Stores q) (u : User) :
    Roll.answerAtOnce? (q u) = u.unfit?.map fun reason => .error reason.toError := by
  rcases hq with rfl | rfl <;> rfl

section Stores

variable {u v : User} {q : User → Request}

/-- The operation looks at the normal form only, once the user is found to be fit. -/
theorem Embedded.Operation.ofRequest_same (hq : Request.Stores q) (h : u.SameRequest v) (hu : u.unfit? = none)
    (path : String) : ofRequest path (q u) = ofRequest path (q v) := by
  have hv := h.fit_iff.1 hu
  have hnormalized := User.normalized_eq_iff.2 h
  rcases hq with rfl | rfl
  · rw [ofRequest, ofRequest, createUser, createUser, createUserBy, createUserBy, hu, hv, hnormalized]
  · rw [ofRequest, ofRequest, updateUser, updateUser, updateUserBy, updateUserBy, hu, hv, hnormalized]

theorem Relational.Operation.ofRequest_same (hq : Request.Stores q) (h : u.SameRequest v) (hu : u.unfit? = none) :
    ofRequest (q u) = ofRequest (q v) := by
  have hv := h.fit_iff.1 hu
  have hnormalized := User.normalized_eq_iff.2 h
  rcases hq with rfl | rfl
  · rw [ofRequest, ofRequest, createUser, createUser, hu, hv, hnormalized]
  · rw [ofRequest, ofRequest, updateUser, updateUser, hu, hv, hnormalized]

namespace Store

/-- A fit user is stored in the same way, however its roles are listed. -/
theorem perform_same (hq : Request.Stores q) (h : u.SameRequest v) (hu : u.unfit? = none) (s : Store) :
    s.perform (q u) = s.perform (q v) := by
  cases s with
  | embedded s home =>
    simp only [perform, Embedded.Store.perform, Embedded.Store.play, Embedded.Operation.ofRequest_same hq h hu]
  | relational s home => simp only [perform, Relational.Store.perform, Relational.Operation.ofRequest_same hq h hu]

/-- What is answered for the form of a request leaves the store alone. -/
theorem perform_atOnce {r : Request} {a : Except StoreError Answer} (h : Roll.answerAtOnce? r = some a) (s : Store) :
    (s.perform r).answer = a ∧ (s.perform r).state = s := by
  cases s with
  | embedded s home =>
    simp only [perform, Embedded.Store.perform, Embedded.Store.play, Embedded.run_atOnce h, and_self]
  | relational s home =>
    obtain ⟨hanswer, hstate⟩ := Relational.leads_atOnce h (s.shared, none)
    simp only [perform, Relational.Store.perform, hanswer, hstate, and_self]

end Store

end Stores

namespace Session

open Settings

variable {u v : User} {q : User → Request}

/-- An unfit user is refused, and nothing changes. -/
theorem perform_unfit (hq : Request.Stores q) (hu : u.unfit? ≠ none) (s : Session) :
    (s.perform (q u)).session = s ∧ ∀ a, (s.perform (q u)).answer ≠ some (.ok a) := by
  obtain ⟨reason, hreason⟩ := Option.ne_none_iff_exists'.1 hu
  cases hs : s.store with
  | none =>
    rw [perform, hs]
    exact ⟨rfl, fun _ ha => by cases ha⟩
  | some store =>
    have honce : Roll.answerAtOnce? (q u) = some (.error reason.toError) := by rw [hq.atOnce, hreason]; rfl
    obtain ⟨hanswer, hstate⟩ := store.perform_atOnce honce
    rw [perform_eq hs, hanswer, hstate, ← hs]
    exact ⟨rfl, fun _ ha => by cases ha⟩

theorem perform_same (hq : Request.Stores q) (h : u.SameRequest v) (hu : u.unfit? = none) (s : Session) :
    s.perform (q u) = s.perform (q v) := by
  cases hs : s.store with
  | none => rw [perform, perform, hs]
  | some store => rw [perform_eq hs, perform_eq hs, store.perform_same hq h hu]

/-- Users that differ in the order and the repetition of their roles are fit or unfit together and have one
normal form, which lists each role once and in ascending order. In every session, with either kind of store and
whatever it holds, creating or updating the one leaves what creating or updating the other would leave, and if
they are fit the answer is the same too. -/
theorem same_roles_same_request (h : u.SameRequest v) :
    ((u.unfit? = none ↔ v.unfit? = none) ∧ u.normalized = v.normalized ∧ u.normalized.normalized = u.normalized) ∧
      (Ascending u.normalized.roles ∧ (∀ role, role ∈ u.normalized.roles ↔ role ∈ u.roles) ∧
        u.roleSet.size = u.normalized.roles.length) ∧
      ∀ (s : Session) (q : User → Request), Request.Stores q →
        (s.perform (q u)).session = (s.perform (q v)).session ∧
          (u.unfit? = none → (s.perform (q u)).answer = (s.perform (q v)).answer) ∧
          ∀ a, (s.perform (q u)).answer = some (.ok a) ↔ (s.perform (q v)).answer = some (.ok a) := by
  refine ⟨⟨h.fit_iff, User.normalized_eq_iff.2 h, u.normalized_normalized⟩,
    ⟨u.normalized_ascending, fun _ => u.mem_normalized, u.size_roleSet⟩, fun s q hq => ?_⟩
  by_cases hu : u.unfit? = none
  · rw [s.perform_same hq h hu]
    exact ⟨rfl, fun _ => rfl, fun _ => Iff.rfl⟩
  · obtain ⟨hsession, hanswer⟩ := s.perform_unfit hq hu
    obtain ⟨hsession', hanswer'⟩ := s.perform_unfit hq (mt h.fit_iff.2 hu)
    rw [hsession, hsession']
    have hno (a : Answer) : (s.perform (q u)).answer = some (.ok a) ↔ (s.perform (q v)).answer = some (.ok a) :=
      ⟨fun ha => absurd ha (hanswer a), fun ha => absurd ha (hanswer' a)⟩
    exact ⟨rfl, fun hfit => absurd hfit hu, hno⟩

/-- Roles that are listed out of order and twice, in stores of both kinds. -/
theorem same_roles_same_request_of_repeats :
    let u : User := ⟨"ann", "Ann", ["viewer", "admin", "viewer"]⟩
    let v : User := ⟨"ann", "Ann", ["admin", "viewer"]⟩
    let embedded := (start { StoreSettings.default with url := "redb://roster.redb" } .empty).session
    let relational := (start { StoreSettings.default with url := "sqlite://roster.db?mode=rwc" } .empty).session
    u.normalized = v.normalized ∧ u.normalized.roles.length = 2 ∧
      (embedded.perform (.create u)).session = (embedded.perform (.create v)).session ∧
      ((relational.perform (.create v)).session.perform (.update u)).answer =
        ((relational.perform (.create v)).session.perform (.update v)).answer := by
  intro u v embedded relational
  have h : u.SameRequest v := ⟨rfl, rfl, fun role => by simp [u, v]; tauto⟩
  obtain ⟨⟨-, hnormalized, -⟩, ⟨-, -, hsize⟩, hstores⟩ := same_roles_same_request h
  have htwo : u.roleSet.size = 2 := by decide
  exact ⟨hnormalized, hsize.symm.trans htwo, (hstores embedded .create (.inl rfl)).1,
    (hstores (relational.perform (.create v)).session .update (.inr rfl)).2.1 (by decide)⟩

end Session

end Roster
