import Roster.Proofs.Relational.Statements
import Roster.Relational.Connection

/-!
# The constraints of the schema

What the two tables promise whoever works on them: keys are there and unique, every role row belongs
to a user row, and a transaction that is given up leaves nothing behind. The constraints are stated
for rows of which any column could be missing and any row could come twice, so that an insertion can
be said to be accepted exactly when they allow its row.
-/

namespace Roster.Relational

/-! ## Constraints -/

/-- Rows of both tables as a query shows them. -/
structure Rows where
  /-- Emails and full names. -/
  users : List (Option String × Option String)
  /-- Emails and roles. -/
  roles : List (Option String × Option String)

namespace Rows

/-- The rows meet the constraints that the schema declares. -/
structure Sound (r : Rows) : Prop where
  userKeys : (r.users.map (·.1)).Nodup
  userPresent : ∀ row ∈ r.users, row.1 ≠ none
  roleKeys : r.roles.Nodup
  rolePresent : ∀ row ∈ r.roles, row.1 ≠ none ∧ row.2 ≠ none
  owned : ∀ row ∈ r.roles, row.1 ∈ r.users.map (·.1)

/-- The rows with one more user. -/
def addUser (r : Rows) (row : Option String × Option String) : Rows := { r with users := row :: r.users }

/-- The rows with one more role. -/
def addRole (r : Rows) (row : Option String × Option String) : Rows := { r with roles := row :: r.roles }

/-- The rows without a user and without the roles of that email. -/
def without (r : Rows) (email : String) : Rows where
  users := r.users.filter fun row => row.1 ≠ some email
  roles := r.roles.filter fun row => row.1 ≠ some email

/-- The same rows, in whatever order. -/
def Same (r r' : Rows) : Prop := r.users.Perm r'.users ∧ r.roles.Perm r'.roles

end Rows

namespace Database

/-- The rows of a database. -/
def shown (db : Database) : Rows where
  users := db.users.rows.map fun row => (some row.1, row.2)
  roles := db.roles.keys.map fun k => (some k.1, some k.2)

/-- The schema is the one that is created, and every role row belongs to a user row. -/
structure Intact (db : Database) : Prop where
  asCreated : db.AsCreated
  owned (email role : String) (h : db.roles.has (email, role) = true) : db.users.has email = true

theorem intact_new : Intact .new := ⟨asCreated_new, fun _ _ h => by cases h⟩

variable {db db' : Database} {email role fullName : Option String}

theorem shown_emails (db : Database) : db.shown.users.map (·.1) = db.users.keys.map some := by
  simp [shown, KeyTable.keys]

theorem mem_shown_emails {email : String} :
    some email ∈ db.shown.users.map (·.1) ↔ db.users.has email = true := by
  rw [shown_emails, KeyTable.has_iff]
  simp

theorem mem_shown_roles {email role : String} :
    (some email, some role) ∈ db.shown.roles ↔ db.roles.has (email, role) = true := by
  rw [KeyTable.has_iff]
  simp [shown]

theorem Intact.sound (h : db.Intact) : db.shown.Sound where
  userKeys := by
    rw [shown_emails]
    exact db.users.keys_ascending.nodup.map fun a b hab => Option.some.inj hab
  userPresent row hrow := by
    obtain ⟨_, -, rfl⟩ := List.mem_map.1 hrow
    simp
  roleKeys := by
    refine db.roles.keys_ascending.nodup.map fun a b hab => ?_
    simpa [Prod.ext_iff] using hab
  rolePresent row hrow := by
    obtain ⟨_, -, rfl⟩ := List.mem_map.1 hrow
    simp
  owned row hrow := by
    obtain ⟨k, hk, rfl⟩ := List.mem_map.1 hrow
    exact mem_shown_emails.2 (h.owned k.1 k.2 (KeyTable.has_iff.2 hk))

/-! ## Rows that the constraints allow -/

theorem Intact.addUser_sound_iff (h : db.Intact) :
    (db.shown.addUser (email, fullName)).Sound ↔ ∃ e, email = some e ∧ db.users.has e = false := by
  have hsound := h.sound
  constructor
  · intro hs
    have hpresent := hs.userPresent (email, fullName) List.mem_cons_self
    obtain ⟨e, rfl⟩ := Option.ne_none_iff_exists'.1 hpresent
    have hnew := (List.nodup_cons.1 hs.userKeys).1
    exact ⟨e, rfl, Bool.eq_false_iff.2 fun hthere => hnew (mem_shown_emails.2 hthere)⟩
  · rintro ⟨e, rfl, hnew⟩
    have hnot : some e ∉ db.shown.users.map (·.1) := by
      rw [mem_shown_emails, hnew]
      simp
    exact ⟨List.nodup_cons.2 ⟨hnot, hsound.userKeys⟩,
      List.forall_mem_cons.2 ⟨by simp, hsound.userPresent⟩, hsound.roleKeys, hsound.rolePresent,
      fun row hrow => List.mem_cons_of_mem _ (hsound.owned row hrow)⟩

theorem Intact.addRole_sound_iff (h : db.Intact) :
    (db.shown.addRole (email, role)).Sound ↔
      ∃ e r, email = some e ∧ role = some r ∧ db.roles.has (e, r) = false ∧ db.users.has e = true := by
  have hsound := h.sound
  constructor
  · intro hs
    obtain ⟨hemail, hrole⟩ := hs.rolePresent (email, role) List.mem_cons_self
    obtain ⟨e, rfl⟩ := Option.ne_none_iff_exists'.1 hemail
    obtain ⟨r, rfl⟩ := Option.ne_none_iff_exists'.1 hrole
    have hnew := (List.nodup_cons.1 hs.roleKeys).1
    exact ⟨e, r, rfl, rfl, Bool.eq_false_iff.2 fun hthere => hnew (mem_shown_roles.2 hthere),
      mem_shown_emails.1 (hs.owned _ List.mem_cons_self)⟩
  · rintro ⟨e, r, rfl, rfl, hnew, howner⟩
    have hnot : (some e, some r) ∉ db.shown.roles := by
      rw [mem_shown_roles, hnew]
      simp
    exact ⟨hsound.userKeys, hsound.userPresent, List.nodup_cons.2 ⟨hnot, hsound.roleKeys⟩,
      List.forall_mem_cons.2 ⟨by simp, hsound.rolePresent⟩,
      List.forall_mem_cons.2 ⟨mem_shown_emails.2 howner, hsound.owned⟩⟩

/-! ## Statements -/

theorem AsCreated.insertUser_refused (h : db.AsCreated)
    (hno : ¬ ∃ e, email = some e ∧ db.users.has e = false) : ∃ f, db.insertUser email fullName = .error f := by
  cases email with
  | none =>
    rw [Database.insertUser, h.naming_users rfl]
    exact ⟨_, rfl⟩
  | some e =>
    have hthere : db.users.has e = true := by
      cases hh : db.users.has e with
      | true => rfl
      | false => exact absurd ⟨e, rfl, hh⟩ hno
    exact ⟨.unique, by rw [h.insertUser_eq, if_pos hthere]⟩

theorem AsCreated.insertRole_refused (h : db.AsCreated)
    (hno : ¬ ∃ e r, email = some e ∧ role = some r ∧ db.roles.has (e, r) = false ∧ db.users.has e = true) :
    ∃ f, db.insertRole email role = .error f := by
  cases email with
  | none =>
    rw [Database.insertRole, h.naming_roles rfl]
    exact ⟨_, rfl⟩
  | some e =>
  cases role with
  | none =>
    rw [Database.insertRole, h.naming_roles rfl]
    exact ⟨_, rfl⟩
  | some r =>
  cases hr : db.roles.has (e, r) with
  | true => exact ⟨.unique, by rw [h.insertRole_eq, if_pos hr]⟩
  | false =>
  cases hu : db.users.has e with
  | true => exact absurd ⟨e, r, rfl, rfl, hr, hu⟩ hno
  | false => exact ⟨.foreignKey, by simp [h.insertRole_eq, hr, hu]⟩

/-- A statement leads to these rows if the constraints allow them, and is refused otherwise. -/
def LeadsTo (r : Except DbFault Database) (rows : Rows) : Prop :=
  (rows.Sound → ∃ db, r = .ok db ∧ db.Intact ∧ db.shown.Same rows) ∧ (¬ rows.Sound → ∃ f, r = .error f)

theorem Intact.insertUser (h : db.Intact) (email fullName : Option String) :
    LeadsTo (db.insertUser email fullName) (db.shown.addUser (email, fullName)) := by
  rw [LeadsTo, h.addUser_sound_iff]
  refine ⟨?_, h.asCreated.insertUser_refused⟩
  rintro ⟨e, rfl, hnew⟩
  refine ⟨_, h.asCreated.insertUser hnew, ⟨h.asCreated.content _ _, fun e' r hr => ?_⟩, ?_, .rfl⟩
  · rw [KeyTable.has_insert, h.owned e' r hr, Bool.or_true]
  · exact (db.users.rows_insert hnew fullName).map fun row => (some row.1, row.2)

theorem Intact.insertRole (h : db.Intact) (email role : Option String) :
    LeadsTo (db.insertRole email role) (db.shown.addRole (email, role)) := by
  rw [LeadsTo, h.addRole_sound_iff]
  refine ⟨?_, h.asCreated.insertRole_refused⟩
  rintro ⟨e, r, rfl, rfl, hnew, howner⟩
  refine ⟨_, h.asCreated.insertRole howner hnew, ⟨h.asCreated.content _ _, fun e' r' hr => ?_⟩, .rfl, ?_⟩
  · -- the new row has an owner because the statement looked for one
    rw [KeyTable.has_insert, Bool.or_eq_true, decide_eq_true_eq] at hr
    rcases hr with hk | hr
    · cases hk
      exact howner
    · exact h.owned e' r' hr
  · exact ((db.roles.rows_insert hnew ()).map (·.1)).map fun k => (some k.1, some k.2)

/-- Deleting a user takes its row and the role rows of its email. Where there is no such user there are
no such role rows either. -/
theorem Intact.deleteUser (h : db.Intact) (email : String) : ∃ db' n,
    db.deleteUser email = .ok (db', n) ∧ db'.Intact ∧ db'.shown = db.shown.without email := by
  rw [h.asCreated.deleteUser]
  cases hthere : db.users.has email with
  | true =>
    refine ⟨_, _, rfl, ⟨h.asCreated.content _ _, fun e r hr => ?_⟩, ?_⟩
    · -- a role that stays is another user's, who stays as well
      rw [KeyTable.has_filter, Bool.and_eq_true, decide_eq_true_eq] at hr
      rw [KeyTable.has_eq, KeyTable.find?_erase, if_neg hr.2, ← KeyTable.has_eq]
      exact h.owned e r hr.1
    · simp [shown, Rows.without, KeyTable.erase, KeyTable.filter, KeyTable.keys, List.filter_map,
        Function.comp_def]
  | false =>
    -- role rows of that email would have an owner, so there are none
    have hemail (row : Option String × Option String) (hrow : row.1 ∈ db.shown.users.map (·.1)) :
        row.1 ≠ some email := by
      intro he
      rw [he, mem_shown_emails, hthere] at hrow
      cases hrow
    have husers := List.filter_eq_self.2 fun row (hrow : row ∈ db.shown.users) =>
      decide_eq_true (hemail row (List.mem_map_of_mem hrow))
    have hroles := List.filter_eq_self.2 fun row (hrow : row ∈ db.shown.roles) =>
      decide_eq_true (hemail row (h.sound.owned row hrow))
    refine ⟨db, 0, rfl, h, ?_⟩
    rw [Rows.without, husers, hroles]

theorem Intact.deleteRole (h : db.Intact) (email role : String) : ∃ db' n,
    db.deleteRoles email [role] = .ok (db', n) ∧ db'.Intact := by
  have hfew : 1 + [role].length ≤ parameterLimit := show 2 ≤ parameterLimit by decide
  obtain ⟨n, hn⟩ := h.asCreated.deleteRoles email hfew
  exact ⟨_, n, hn, h.asCreated.content _ _, fun e r hr => h.owned e r (has_withoutRows.1 hr).1⟩

end Database

/-! ## Steps -/

/-- How many transactions are open after a step, when `n` were before; none if the step ends one that is
not among them. -/
def Step.depth? (n : Nat) : Step → Option Nat
  | .begin => some (n + 1)
  | .commit | .rollback | .drop => if n = 0 then none else some (n - 1)
  | _ => some n

/-- The steps end exactly the transactions that they begin. -/
def Balanced (steps : List Step) : Prop := steps.foldlM Step.depth? 0 = some 0

instance (steps : List Step) : Decidable (Balanced steps) := inferInstanceAs (Decidable (_ = _))

namespace Connection

/-- The rows as they are seen. -/
def shown (c : Connection) : Rows := c.database.shown

/-- The connection after steps in turn. -/
def after (c : Connection) (steps : List Step) : Connection := steps.foldl (fun c s => (c.step s).1) c

/-- The step leaves these rows if the constraints allow them, and is refused otherwise. -/
def Inserts (c : Connection) (s : Step) (rows : Rows) : Prop :=
  (rows.Sound → ∃ c', c.step s = (c', .ok none) ∧ c'.shown.Same rows) ∧
    (¬ rows.Sound → ∃ f, c.step s = (c, .error f))

/-- What the tables promise, whatever was done with them. -/
structure Lawful (c : Connection) : Prop where
  sound : c.shown.Sound
  insertUser (email fullName : Option String) :
    c.Inserts (.insertUser email fullName) (c.shown.addUser (email, fullName))
  insertRole (email role : Option String) : c.Inserts (.insertRole email role) (c.shown.addRole (email, role))
  refused (s : Step) (f : DbFault) (h : (c.step s).2 = .error f) : (c.step s).1 = c
  deleteUser (email : String) :
    ∃ c' n, c.step (.deleteUser email) = (c', .ok (some n)) ∧ c'.shown = c.shown.without email
  /-- A transaction, whatever is done in it, leaves the rows that it shows, or nothing at all. -/
  transaction (steps : List Step) (h : Balanced steps) :
    let c' := (c.step .begin).1.after steps
    (c'.step .commit).1 = ⟨c'.database, c.saved⟩ ∧ (c'.step .rollback).1 = c ∧ (c'.step .drop).1 = c

/-- The rows that are seen, and those to which a transaction may go back, are intact. -/
def Intact (c : Connection) : Prop := ∀ db ∈ c.database :: c.saved, db.Intact

variable {c : Connection} {s : Step}

/-- The statements of the schema make the tables. -/
theorem step_ensureSchema_blank : (new .blank).step .ensureSchema = (new .new, .ok none) := rfl

theorem intact_new : Intact (new .new) := by
  intro db hdb
  cases List.mem_singleton.1 hdb
  exact Database.intact_new

namespace Intact

theorem database (h : c.Intact) : c.database.Intact := h _ List.mem_cons_self

theorem keep (h : c.Intact) {db : Database} (hdb : db.Intact) : (c.keep db).Intact :=
  List.forall_mem_cons.2 ⟨hdb, (List.forall_mem_cons.1 h).2⟩

/-- Steps that insert keep the rows intact and obey the constraints, because their statements do. -/
theorem insertion (h : c.Intact) {r : Except DbFault Database} {rows : Rows} (hr : Database.LeadsTo r rows)
    (hs : c.step s = match (motive := _ → _ × _) r with
      | .ok db => (c.keep db, .ok none)
      | .error f => (c, .error f)) : (c.step s).1.Intact ∧ c.Inserts s rows := by
  rw [Inserts, hs]
  by_cases hrows : rows.Sound
  · obtain ⟨db, rfl, hi, hsame⟩ := hr.1 hrows
    exact ⟨h.keep hi, fun _ => ⟨c.keep db, rfl, hsame⟩, fun hno => absurd hrows hno⟩
  · obtain ⟨f, rfl⟩ := hr.2 hrows
    exact ⟨h, fun hyes => absurd hyes hrows, fun _ => ⟨f, rfl⟩⟩

theorem insertUser (h : c.Intact) (email fullName : Option String) :
    (c.step (.insertUser email fullName)).1.Intact ∧
      c.Inserts (.insertUser email fullName) (c.shown.addUser (email, fullName)) :=
  h.insertion (h.database.insertUser email fullName) rfl

theorem insertRole (h : c.Intact) (email role : Option String) :
    (c.step (.insertRole email role)).1.Intact ∧
      c.Inserts (.insertRole email role) (c.shown.addRole (email, role)) :=
  h.insertion (h.database.insertRole email role) rfl

/-- The tables and indexes are there already. -/
theorem ensureSchema (h : c.Intact) : c.step .ensureSchema = (c, .ok none) := by
  rw [Connection.step, h.database.asCreated.runSchema false]
  rfl

theorem step (h : c.Intact) (s : Step) : (c.step s).1.Intact := by
  obtain ⟨hdb, hsaved⟩ := List.forall_mem_cons.1 h
  cases s with
  | insertUser email fullName => exact (h.insertUser email fullName).1
  | insertRole email role => exact (h.insertRole email role).1
  | deleteUser email =>
    obtain ⟨db, n, he, hi, -⟩ := hdb.deleteUser email
    simpa only [Connection.step, he] using h.keep hi
  | deleteRole email role =>
    obtain ⟨db, n, he, hi⟩ := hdb.deleteRole email role
    simpa only [Connection.step, he] using h.keep hi
  | ensureSchema => rwa [h.ensureSchema]
  | begin => exact List.forall_mem_cons.2 ⟨hdb, h⟩
  | commit => exact List.forall_mem_cons.2 ⟨hdb, fun db hm => hsaved db (List.mem_of_mem_drop hm)⟩
  | rollback | drop =>
    -- without a transaction there is nothing to give up
    obtain ⟨db, saved⟩ := c
    cases saved with
    | nil => exact h
    | cons db' saved => exact hsaved

theorem after (h : c.Intact) (steps : List Step) : (c.after steps).Intact := by
  induction steps generalizing c with
  | nil => exact h
  | cons s steps ih => exact ih (h.step s)

end Intact

theorem Intact.refused (hc : c.Intact) {f : DbFault} (h : (c.step s).2 = .error f) : (c.step s).1 = c := by
  cases s with
  | insertUser | insertRole | deleteUser | deleteRole =>
    simp only [Connection.step] at h ⊢
    split
    · rename_i he
      rw [he] at h
      cases h
    · rfl
  | ensureSchema => rw [hc.ensureSchema]
  | begin | commit | rollback | drop => cases h

/-! ## Transactions -/

theorem saved_step {top below : List Database} {n : Nat} (h : c.saved = top ++ below)
    (hs : s.depth? top.length = some n) : ∃ top', (c.step s).1.saved = top' ++ below ∧ top'.length = n := by
  obtain ⟨db, saved⟩ := c
  cases h
  cases s with
  | insertUser | insertRole | deleteUser | deleteRole =>
    cases hs
    refine ⟨top, ?_, rfl⟩
    simp only [step]
    split <;> rfl
  | ensureSchema =>
    cases hs
    exact ⟨top, rfl, rfl⟩
  | begin =>
    cases hs
    exact ⟨db :: top, rfl, rfl⟩
  | commit | rollback | drop =>
    -- what ends is the innermost of the transactions above
    cases top with
    | nil => cases hs
    | cons db' top =>
      cases hs
      exact ⟨top, rfl, rfl⟩

/-- Steps that end no other transactions than their own and those of `top` do not touch what lies below. -/
theorem saved_after {steps : List Step} {top below : List Database} {n : Nat} (h : c.saved = top ++ below)
    (hs : steps.foldlM Step.depth? top.length = some n) :
    ∃ top', (c.after steps).saved = top' ++ below ∧ top'.length = n := by
  induction steps generalizing c top with
  | nil =>
    cases hs
    exact ⟨top, h, rfl⟩
  | cons s steps ih =>
    rw [List.foldlM_cons, Option.bind_eq_bind, Option.bind_eq_some_iff] at hs
    obtain ⟨m, hm, hs⟩ := hs
    obtain ⟨top', h', rfl⟩ := saved_step h hm
    exact ih h' hs

theorem end_transaction {db : Database} {saved : List Database} (h : c.saved = db :: saved) :
    (c.step .commit).1 = ⟨c.database, saved⟩ ∧ (c.step .rollback).1 = ⟨db, saved⟩ ∧
      (c.step .drop).1 = ⟨db, saved⟩ := by
  obtain ⟨db', saved'⟩ := c
  cases h
  exact ⟨rfl, rfl, rfl⟩

theorem transaction {steps : List Step} (h : Balanced steps) :
    let c' := (c.step .begin).1.after steps
    (c'.step .commit).1 = ⟨c'.database, c.saved⟩ ∧ (c'.step .rollback).1 = c ∧ (c'.step .drop).1 = c := by
  intro c'
  -- what lies below the beginning is the state from before
  have hbegun : (c.step .begin).1.saved = [] ++ c.database :: c.saved := rfl
  obtain ⟨top, hsaved, htop⟩ := saved_after hbegun h
  cases List.length_eq_zero_iff.1 htop
  exact end_transaction hsaved

/-! ## All steps -/

/-- From their creation by the statements of the schema on, the tables keep their promises: after any
statements, accepted or refused, and any transactions, committed or given up. -/
theorem lawful_after (steps : List Step) : Lawful ((Connection.new .blank).after (.ensureSchema :: steps)) := by
  rw [after, List.foldl_cons, step_ensureSchema_blank, ← after]
  have h := intact_new.after steps
  constructor
  case sound => exact h.database.sound
  case insertUser => exact fun email fullName => (h.insertUser email fullName).2
  case insertRole => exact fun email role => (h.insertRole email role).2
  case refused => exact fun s f hs => h.refused hs
  case deleteUser =>
    intro email
    obtain ⟨db, n, he, -, hshown⟩ := h.database.deleteUser email
    exact ⟨((new .new).after steps).keep db, n, by rw [step, he], hshown⟩
  case transaction => exact fun steps hsteps => transaction hsteps

/-- A user that is deleted and comes back in an inner transaction is there as before once the outer one
is given up. -/
theorem lawful_after_deleted_user :
    let c := (Connection.new .blank).after
      [.ensureSchema, .insertUser (some "ann") none, .insertRole (some "ann") (some "a")]
    let inner := [.deleteUser "ann", .begin, .insertUser (some "ann") (some "Ann"), .commit,
      .insertRole (some "bob") (some "a")]
    Balanced inner ∧ c.shown.Sound ∧ (((c.step .begin).1.after inner).step .drop).1 = c :=
  ⟨by decide, (lawful_after _).sound, ((lawful_after _).transaction _ (by decide)).2.2⟩

end Connection

end Roster.Relational
