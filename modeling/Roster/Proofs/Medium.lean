import Roster.Proofs.Roll
import Roster.Relational.Operations

/-!
# What a roll is kept in

A store may refuse what the roll itself would grant. The tables of a file take whatever is fit. A database
may be there to be read only, and each of its statements takes so many parameters and no more: two for
every role that is added, and one for every role that is taken away beside one for the email.
`Roll.serveOn` is the roll with these refusals; short of them it is `Roll.serve` (`Roll.serveOn_cases`).
-/

namespace Roster

open Relational Relational.Operation

/-- What a roll is kept in. -/
inductive Medium where
  | embedded
  | relational (readOnly : Bool)
  deriving DecidableEq

namespace Medium

/-- The kind of store. -/
def backend : Medium → Backend
  | embedded => .embedded
  | relational _ => .relational

/-- Why the roles of a user cannot be brought from some to others. What is not needed any more is taken away
first. -/
def syncing? (before after : List String) : Option StoreError :=
  if Database.parameterLimit < 1 + (before.filter fun role => !after.contains role).length then
    some (storage "remove_roles" Database.tooMany)
  else if Database.parameterLimit < 2 * (after.filter fun role => !before.contains role).length then
    some (storage "add_roles" Database.tooMany)
  else none

/-- Why a user who is not there yet cannot be stored with these roles. -/
def creating? : Medium → (roles : List String) → Option StoreError
  | embedded, _ => none
  | relational true, _ => some (storage "create_user" readOnlyFault)
  | relational false, roles => syncing? [] roles

/-- Why a user, who has roles if it is there, cannot be given others. -/
def updating? : Medium → (before : Option (List String)) → (after : List String) → Option StoreError
  | embedded, _, _ => none
  | relational true, _, _ => some (storage "update_user" readOnlyFault)
  | relational false, none, _ => none
  | relational false, some before, after => syncing? before after

/-- Why a user cannot be deleted. -/
def deleting? : Medium → Option StoreError
  | relational true => some (storage "delete_user" readOnlyFault)
  | _ => none

/-- What is answered to a mutation that is done unless it is refused. -/
def verdict : Option StoreError → Except StoreError Answer
  | none => .ok .done
  | some e => .error e

/-- Why a request of good form is refused that an open roll would answer. -/
def refusal? (m : Medium) (r : Roll) : Request → Option StoreError
  | .create u => if r.entries.has u.email then none else m.creating? u.normalized.roles
  | .update u => m.updating? ((r.entries.find? u.email).map (·.roles)) u.normalized.roles
  | .delete _ => m.deleting?
  | _ => none

@[simp] theorem refusal?_embedded (r : Roll) (q : Request) : embedded.refusal? r q = none := by
  cases q <;> simp [refusal?, creating?, updating?, deleting?]

/-! ## The number of parameters -/

variable {before after before' after' : List String} {e : StoreError}

theorem syncing?_eq_none : syncing? before after = none ↔
    1 + (before.filter fun role => !after.contains role).length ≤ Database.parameterLimit ∧
      2 * (after.filter fun role => !before.contains role).length ≤ Database.parameterLimit := by
  unfold syncing?
  split <;> [skip; split] <;> simp only [reduceCtorEq, false_iff, true_iff] <;> omega

theorem syncing?_eq_some : syncing? before after = some e ↔
    Database.parameterLimit < 1 + (before.filter fun role => !after.contains role).length ∧
        e = storage "remove_roles" Database.tooMany ∨
      1 + (before.filter fun role => !after.contains role).length ≤ Database.parameterLimit ∧
        Database.parameterLimit < 2 * (after.filter fun role => !before.contains role).length ∧
        e = storage "add_roles" Database.tooMany := by
  unfold syncing?
  split
  · rename_i hremove
    rw [Option.some.injEq, eq_comm]
    exact ⟨fun he => .inl ⟨hremove, he⟩, fun hc => hc.elim And.right fun hr => absurd hr.1 (Nat.not_le.2 hremove)⟩
  · split <;> simp_all [eq_comm]

/-- Only which roles there are counts. -/
theorem syncing?_congr (hb : before.Perm before') (ha : after.Perm after') :
    syncing? before after = syncing? before' after' := by
  have hremoved : (before.filter fun role => !after.contains role).length =
      (before'.filter fun role => !after'.contains role).length := by
    simp only [ha.contains_eq]
    exact (hb.filter _).length_eq
  have hadded : (after.filter fun role => !before.contains role).length =
      (after'.filter fun role => !before'.contains role).length := by
    simp only [hb.contains_eq]
    exact (ha.filter _).length_eq
  rw [syncing?, syncing?, hremoved, hadded]

theorem syncing?_of_same (h : ∀ role, role ∈ before ↔ role ∈ after) : syncing? before after = none := by
  have hremoved : (before.filter fun role => !after.contains role) = [] := by simp [h]
  have hadded : (after.filter fun role => !before.contains role) = [] := by simp [h]
  exact syncing?_eq_none.2 (by rw [hremoved, hadded]; decide)

theorem creating?_of_many (h : Database.parameterLimit < 2 * after.length) :
    (relational false).creating? after = some (storage "add_roles" Database.tooMany) := by
  refine syncing?_eq_some.2 (.inr ⟨?_, ?_, rfl⟩)
  · simp [Database.parameterLimit]
  · simpa using h

/-! ## Few roles -/

/-- A user has no more roles than one statement can add. -/
def Moderate (roles : List String) : Prop := 2 * roles.length ≤ Database.parameterLimit

instance (roles : List String) : Decidable (Moderate roles) := inferInstanceAs (Decidable (_ ≤ _))

/-- The medium holds users with so many roles, whatever is done with them. -/
def Holds : Medium → (roles : List String) → Prop
  | embedded, _ => True
  | relational readOnly, roles => readOnly = false ∧ Moderate roles

theorem moderate_normalized {u : User} (h : Moderate u.roles) : Moderate u.normalized.roles :=
  Nat.le_trans (Nat.mul_le_mul_left 2 u.length_normalized_le) h

/-- From few roles to few others it takes few parameters. -/
theorem syncing?_of_moderate (hb : Moderate before) (ha : Moderate after) : syncing? before after = none := by
  have hremoved := List.length_filter_le (fun role => !after.contains role) before
  have hadded := List.length_filter_le (fun role => !before.contains role) after
  have hlimit : Database.parameterLimit = 32766 := rfl
  unfold Moderate at hb ha
  exact syncing?_eq_none.2 ⟨by omega, by omega⟩

/-- Users that the medium holds can be created, updated and deleted. -/
theorem of_holds {m : Medium} (hb : m.Holds before) (ha : m.Holds after) :
    m.creating? after = none ∧ m.updating? (some before) after = none ∧ m.deleting? = none := by
  cases m with
  | embedded => exact ⟨rfl, rfl, rfl⟩
  | relational readOnly =>
    obtain ⟨rfl, hb⟩ := hb
    exact ⟨syncing?_of_moderate (Nat.zero_le _) ha.2, syncing?_of_moderate hb ha.2, rfl⟩

end Medium

namespace Roll

/-- The answer of an open roll to a request of good form, where it is kept in a medium, and the roll
afterwards. -/
def answerOn (m : Medium) (r : Roll) (q : Request) : Except StoreError Answer × Roll :=
  match m.refusal? r q with
  | some e => (.error e, r)
  | none => r.answer q

/-- The answer to a request where the roll is kept in a medium, and the roll afterwards. -/
def serveOn (m : Medium) (r : Roll) (q : Request) : Except StoreError Answer × Roll :=
  match answerAtOnce? q with
  | some a => (a, r)
  | none => if r.isOpen then r.answerOn m q else (.error .closed, r)

/-- The answers to requests in turn where the roll is kept in a medium. -/
def answersOn (m : Medium) : Roll → List Request → List (Except StoreError Answer)
  | _, [] => []
  | r, q :: qs => (r.serveOn m q).1 :: answersOn m (r.serveOn m q).2 qs

variable {m : Medium} {r : Roll} {q : Request} {e : StoreError} {a : Answer} {u : User} {email : String}

theorem serveOn_eq_answerOn (hq : answerAtOnce? q = none) (hopen : r.isOpen = true) :
    r.serveOn m q = r.answerOn m q := by
  rw [serveOn, hq]
  simp [hopen]

/-- What is not refused is served as ever. -/
theorem serveOn_of_none (h : m.refusal? r q = none) : r.serveOn m q = r.serve q := by
  have hanswer : r.answerOn m q = r.answer q := by rw [answerOn, h]
  cases hq : answerAtOnce? q with
  | some a => rw [serveOn, serve, hq]
  | none => rw [serveOn, serve, hq, hanswer]

@[simp] theorem serveOn_embedded (r : Roll) (q : Request) : r.serveOn .embedded q = r.serve q :=
  serveOn_of_none (Medium.refusal?_embedded r q)

theorem serveOn_eq_serve (hclosed : r.isOpen = false) : r.serveOn m q = r.serve q := by
  rw [serveOn, serve, hclosed]
  rfl

/-- A request is served as ever, or an open roll refuses it and stays as it is. -/
theorem serveOn_cases (m : Medium) (r : Roll) (q : Request) :
    r.serveOn m q = r.serve q ∨
      ∃ e, m.refusal? r q = some e ∧ answerAtOnce? q = none ∧ r.isOpen = true ∧ r.serveOn m q = (.error e, r) := by
  cases he : m.refusal? r q with
  | none => exact .inl (serveOn_of_none he)
  | some e =>
    cases hq : answerAtOnce? q with
    | some a => exact .inl (by rw [serveOn, serve, hq])
    | none =>
      cases hopen : r.isOpen with
      | false => exact .inl (serveOn_eq_serve hopen)
      | true => exact .inr ⟨e, rfl, rfl, rfl, by rw [serveOn_eq_answerOn hq hopen, answerOn, he]⟩

/-- What is refused leaves the roll as it is. -/
theorem serveOn_snd_of_some (h : m.refusal? r q = some e) : (r.serveOn m q).2 = r := by
  have hanswer : r.answerOn m q = (.error e, r) := by rw [answerOn, h]
  rw [serveOn, hanswer]
  cases answerAtOnce? q with
  | some a => rfl
  | none => cases r.isOpen <;> rfl

/-- What is granted was not refused. -/
theorem serveOn_of_ok (h : (r.serveOn m q).1 = .ok a) : r.serveOn m q = r.serve q := by
  rcases serveOn_cases m r q with hsame | ⟨e, -, -, -, he⟩
  · exact hsame
  · rw [he] at h
    cases h

theorem fit_serveOn (h : r.Fit) (m : Medium) (q : Request) : (r.serveOn m q).2.Fit := by
  rcases serveOn_cases m r q with hsame | ⟨e, -, -, -, he⟩
  · rw [hsame]
    exact fit_serve h q
  · rw [he]
    exact h

/-! ## Requests that are granted or refused -/

theorem serveOn_create (hopen : r.isOpen = true) (hu : u.unfit? = none) (hnew : r.entries.has u.email = false) :
    r.serveOn m (.create u) = match m.creating? u.normalized.roles with
      | none => (.ok .done, r.put u)
      | some e => (.error e, r) := by
  have hq : answerAtOnce? (.create u) = none := by simp [answerAtOnce?, hu]
  have hserve := serve_create hopen hu hnew
  rw [serve_eq_answer hq hopen] at hserve
  rw [serveOn_eq_answerOn hq hopen, answerOn, Medium.refusal?, hnew, hserve]
  cases m.creating? u.normalized.roles <;> rfl

/-- Who is there already is not stored again, and the medium is not asked. -/
theorem serveOn_create_there (hopen : r.isOpen = true) (hu : u.unfit? = none)
    (hthere : r.entries.has u.email = true) : r.serveOn m (.create u) = (.error .userAlreadyExists, r) := by
  have hq : answerAtOnce? (.create u) = none := by simp [answerAtOnce?, hu]
  have hnone : m.refusal? r (.create u) = none := if_pos hthere
  rw [serveOn_of_none hnone, serve_eq_answer hq hopen, answer]
  obtain ⟨x, hx⟩ := KeyTable.has_iff_exists.1 hthere
  rw [hx]

theorem serveOn_update (hopen : r.isOpen = true) (hu : u.unfit? = none) :
    r.serveOn m (.update u) =
      match m.updating? ((r.entries.find? u.email).map (·.roles)) u.normalized.roles with
      | none => match r.entries.find? u.email with
        | some _ => (.ok .done, r.put u)
        | none => (.error .userNotFound, r)
      | some e => (.error e, r) := by
  rw [serveOn_eq_answerOn (by simp [answerAtOnce?, hu]) hopen, answerOn, Medium.refusal?, answer]
  cases m.updating? ((r.entries.find? u.email).map (·.roles)) u.normalized.roles <;> rfl

theorem serveOn_delete (hopen : r.isOpen = true) (he : unfitEmail? email = none) :
    r.serveOn m (.delete email) = match m.deleting? with
      | none => match r.entries.find? email with
        | some _ => (.ok .done, r.drop email)
        | none => (.error .userNotFound, r)
      | some e => (.error e, r) := by
  rw [serveOn_eq_answerOn (by simp [answerAtOnce?, he]) hopen, answerOn, Medium.refusal?, answer]
  cases m.deleting? <;> rfl

/-- Reading is never refused. -/
theorem serveOn_user (m : Medium) (r : Roll) (email : String) : r.serveOn m (.user email) = r.serve (.user email) :=
  serveOn_of_none rfl

/-! ## Rolls of users with few roles -/

/-- Nobody on the roll has more roles than one statement can add. -/
def AllModerate (r : Roll) : Prop := ∀ email x, r.entries.find? email = some x → Medium.Moderate x.roles

theorem allModerate_serve (h : r.AllModerate) (hq : ∀ u ∈ q.stored?, Medium.Moderate u.normalized.roles) :
    (r.serve q).2.AllModerate := by
  intro email x hx
  rcases find?_serve hx with hx | ⟨u, hu, -, -, rfl⟩
  · exact h email x hx
  · exact hq u hu

/-- A database that may be written refuses nothing as long as there are few roles. -/
theorem refusal?_of_moderate (h : r.AllModerate) (hq : ∀ u ∈ q.stored?, Medium.Moderate u.normalized.roles) :
    (Medium.relational false).refusal? r q = none := by
  cases q with
  | create u =>
    rw [Medium.refusal?]
    split
    · rfl
    · exact Medium.syncing?_of_moderate (Nat.zero_le _) (hq u rfl)
  | update u =>
    rw [Medium.refusal?]
    cases hx : r.entries.find? u.email with
    | none => rfl
    | some x => exact Medium.syncing?_of_moderate (h u.email x hx) (hq u rfl)
  | delete | user | users | usersByRole | liveRoles | memberCount | close => rfl

theorem answersOn_of_moderate {qs : List Request} (h : r.AllModerate)
    (hqs : ∀ q ∈ qs, ∀ u ∈ q.stored?, Medium.Moderate u.normalized.roles) :
    r.answersOn (.relational false) qs = r.answers qs := by
  induction qs generalizing r with
  | nil => rfl
  | cons q qs ih =>
    obtain ⟨hq, hqs⟩ := List.forall_mem_cons.1 hqs
    rw [answersOn, answers, serveOn_of_none (refusal?_of_moderate h hq), ih (allModerate_serve h hq) hqs]

theorem answersOn_embedded (r : Roll) (qs : List Request) : r.answersOn .embedded qs = r.answers qs := by
  induction qs generalizing r with
  | nil => rfl
  | cons q qs ih => rw [answersOn, answers, serveOn_embedded, ih]

end Roll

/-! ## Many roles -/

/-- Roles of one character each. -/
def crowd (n : Nat) : List String := (List.range n).map fun i => String.singleton (Char.ofNat (0x4E00 + i))

/-- Somebody with these roles. -/
def crowded (n : Nat) : User := ⟨"ann", "", crowd n⟩

section Crowd

variable {n : Nat}

theorem toNat_crowd {i : Nat} (hi : i < 20000) : (Char.ofNat (0x4E00 + i)).toNat = 0x4E00 + i := by
  have hvalid : (0x4E00 + i).isValidChar := .inl (by omega)
  rw [Char.ofNat, dif_pos hvalid]
  rfl

theorem nodup_crowd (hn : n ≤ 20000) : (crowd n).Nodup := by
  refine List.Nodup.map_on (fun i hi j hj h => ?_) List.nodup_range
  have hi := List.mem_range.1 hi
  have hj := List.mem_range.1 hj
  have hcode := congrArg Char.toNat (String.singleton_inj.1 h)
  rw [toNat_crowd (by omega), toNat_crowd (by omega)] at hcode
  omega

theorem fit_of_mem_crowd (hn : n ≤ 20000) {role : String} (hr : role ∈ crowd n) : unfitRole? role = none := by
  obtain ⟨i, hi, rfl⟩ := List.mem_map.1 hr
  have hi := List.mem_range.1 hi
  have hcode := toNat_crowd (i := i) (by omega)
  have hblank : Text.isBlank (String.singleton (Char.ofNat (0x4E00 + i))) = false := by
    simp [Text.isBlank, Text.isBlankChar, Text.inRanges, Text.blankTable, hcode]
    omega
  have hnul : hasNul (String.singleton (Char.ofNat (0x4E00 + i))) = false := by
    simp [hasNul, hcode]
  have hshort : byteLength (String.singleton (Char.ofNat (0x4E00 + i))) ≤ 4 := by
    rw [byteLength, String.utf8ByteSize_singleton]
    exact Char.utf8Size_le_four _
  simp [unfitRole?, hblank, hnul, roleLimit]
  omega

theorem unfit?_crowded (hn : n ≤ 20000) : (crowded n).unfit? = none :=
  have hemail : unfitEmail? "ann" = none := by decide
  User.unfit?_eq_none.2 ⟨hemail, Nat.zero_le _, fun _ hr => fit_of_mem_crowd hn hr⟩

theorem crowd_perm (hn : n ≤ 20000) : (crowded n).normalized.roles.Perm (crowd n) :=
  (List.perm_ext_iff_of_nodup (crowded n).normalized_ascending.nodup (nodup_crowd hn)).2 fun _ =>
    (crowded n).mem_normalized

theorem length_crowd (hn : n ≤ 20000) : (crowded n).normalized.roles.length = n := by
  rw [(crowd_perm hn).length_eq, crowd, List.length_map, List.length_range]

/-- From one crowd to a greater one, just the difference is added. -/
theorem syncing?_crowd {k : Nat} (hn : n + k ≤ 20000) (hk : 2 * k ≤ Relational.Database.parameterLimit) :
    Medium.syncing? (crowded n).normalized.roles (crowded (n + k)).normalized.roles = none := by
  rw [Medium.syncing?_congr (crowd_perm (by omega)) (crowd_perm hn)]
  let more := (List.range' n k).map fun i => String.singleton (Char.ofNat (0x4E00 + i))
  have hmore : crowd (n + k) = crowd n ++ more := by
    rw [crowd, crowd, ← List.map_append, List.range_eq_range', List.range_eq_range', ← List.range'_append]
    simp
  have hremoved : (crowd n).filter (fun role => !(crowd (n + k)).contains role) = [] := by
    rw [hmore]
    simpa using fun role hr hno => absurd hr hno
  have hadded : ((crowd (n + k)).filter fun role => !(crowd n).contains role).length ≤ k := by
    rw [hmore, List.filter_append, List.length_append]
    have hnone : (crowd n).filter (fun role => !(crowd n).contains role) = [] := by simp
    have hrest := List.length_filter_le (fun role => !(crowd n).contains role) more
    have hlength : more.length = k := by simp [more]
    rw [hnone, List.length_nil]
    omega
  refine Medium.syncing?_eq_none.2 ⟨?_, by omega⟩
  rw [hremoved]
  decide

end Crowd

end Roster
