import Roster.Proofs.ItemSet
import Roster.Proofs.Relational.Joins
import Roster.Relational.Connection

/-!
# Statements on a database as it was created

What each statement answers and leaves while the schema is the one that was created and nobody has
forbidden any row. The role rows of a user are known by which of them are there.
-/

namespace Roster.Relational

/-- The rows of roles. -/
abbrev RoleRows := KeyTable (String × String) Unit

/-- The rows with those of some roles of an email. -/
def withRows (rows : RoleRows) (email : String) (roles : List String) : RoleRows :=
  roles.foldl (fun rows role => rows.insert (email, role) ()) rows

/-- The rows without those of some roles of an email. -/
def withoutRows (rows : RoleRows) (email : String) (roles : List String) : RoleRows :=
  rows.filter fun k _ => !(k.1 = email && roles.contains k.2)

/-- The rows brought from one role set of an email to another. -/
def syncedRows (rows : RoleRows) (email : String) (previous next : ItemSet String) : RoleRows :=
  match RoleDiff.between previous next with
  | none => rows
  | some d => withRows (withoutRows rows email d.toRemove.sorted) email d.toAdd.sorted

variable {rows : RoleRows} {email : String} {roles : List String}

theorem has_withRows {k : String × String} :
    (withRows rows email roles).has k = true ↔ k.1 = email ∧ k.2 ∈ roles ∨ rows.has k = true := by
  induction roles generalizing rows with
  | nil => simp [withRows]
  | cons role roles ih =>
    rw [withRows, List.foldl_cons, ← withRows, ih, KeyTable.has_insert]
    simp only [Bool.or_eq_true, decide_eq_true_eq, List.mem_cons, Prod.ext_iff]
    tauto

theorem has_withoutRows {k : String × String} :
    (withoutRows rows email roles).has k = true ↔ rows.has k = true ∧ ¬ (k.1 = email ∧ k.2 ∈ roles) := by
  rw [withoutRows, KeyTable.has_filter]
  simp [imp_iff_not_or]

/-- When the previous roles are those that have rows, just the next roles have rows afterwards, and all
other rows are as before. -/
theorem has_syncedRows {previous next : ItemSet String} {k : String × String}
    (hp : ∀ role, role ∈ previous.items ↔ rows.has (email, role) = true) :
    (syncedRows rows email previous next).has k = true ↔
      if k.1 = email then k.2 ∈ next.items else rows.has k = true := by
  have hrow : k.1 = email → (k.2 ∈ previous.items ↔ rows.has k = true) := fun he => by
    rw [hp, ← he]
  unfold syncedRows
  cases h : RoleDiff.between previous next with
  | none =>
    by_cases he : k.1 = email
    · simp only [he, if_true, ← hrow he, RoleDiff.between_none h k.2]
    · simp [he]
  | some d =>
    obtain ⟨hrem, hadd⟩ := RoleDiff.between_some h
    simp only [has_withRows, has_withoutRows, ItemSet.mem_sorted, hrem, hadd]
    by_cases he : k.1 = email
    · simp only [he, true_and, if_true, ← hrow he]
      tauto
    · simp [he]

namespace Database

/-! ## The declared tables -/

/-- Users are told apart by their emails. -/
theorem hasUserLike_eq (db : Database) (email : String) (fullName : Option String) :
    db.hasUserLike usersTable (email, fullName) = db.users.has email := by
  have hkey : usersTable.key.contains "email" = true ∧ usersTable.key.contains "full_name" = false := by decide
  simp only [hasUserLike, hkey, KeyTable.has]
  simp

/-- Role rows are told apart by the email and the role. -/
theorem hasRoleLike_eq (db : Database) (email role : String) :
    db.hasRoleLike rolesTable (email, role) = db.roles.has (email, role) := by
  have hkey : rolesTable.key.contains "email" = true ∧ rolesTable.key.contains "role" = true := by decide
  simp only [hasRoleLike, hkey, KeyTable.has, Bool.not_true, Bool.false_or]
  refine congrArg (List.any db.roles.rows) (funext fun other => ?_)
  simp [Prod.ext_iff, Bool.and_comm]

/-- A role row belongs to the user with its email. -/
theorem belongs_eq {f : ForeignKey} (hf : f ∈ rolesTable.foreignKeys) (role : String × String)
    (user : String × Option String) : belongs f role user = decide (role.1 = user.1) := by
  cases List.mem_singleton.1 hf
  simp [belongs, roleColumn?, userColumn?, eq_comm]

theorem hasOwners_eq (db : Database) (email role : String) :
    db.hasOwners rolesTable (email, role) = db.users.has email := by
  have hany (f : ForeignKey) (hf : f ∈ rolesTable.foreignKeys) :
      db.users.rows.any (belongs f (email, role)) = db.users.has email := by
    rw [funext (belongs_eq hf (email, role)), KeyTable.has]
    exact congrArg (List.any db.users.rows) (funext fun user => decide_eq_decide.2 eq_comm)
  rw [hasOwners, Bool.eq_iff_iff, List.all_eq_true]
  exact ⟨fun h => hany _ List.mem_cons_self ▸ h _ List.mem_cons_self, fun h f hf => (hany f hf).trans h⟩

/-- Creations that change nothing are all made. -/
theorem runCreations_of_served {σ : Type} {serve : Creation → σ → Except String σ} {st : σ}
    {creations : List Creation} (h : ∀ c ∈ creations, serve c st = .ok st) :
    runCreations serve st creations = (creations, st, .ok ()) := by
  induction creations with
  | nil => rfl
  | cons c creations ih =>
    obtain ⟨hc, hcs⟩ := List.forall_mem_cons.1 h
    simp only [runCreations, hc, ih hcs]

/-- The schema is the one that is created, and no row is forbidden. -/
structure AsCreated (db : Database) : Prop where
  declared : db.declared = Database.new.declared
  caseless : db.caseless = false
  refusals : db.refusals = []

/-- The row is one of those that a joined read selects. -/
def selects (db : Database) (s : Selection) (u : String × Option String) : Bool :=
  match s with
  | .everyone => true
  | .email email => u.1 = email
  | .role role => db.roles.has (u.1, role)

theorem asCreated_new : AsCreated .new := ⟨rfl, rfl, rfl⟩

namespace AsCreated

variable {db : Database} {fullName : Option String}

/-- Other rows do not change the schema. -/
theorem content (h : db.AsCreated) (users : KeyTable String (Option String)) (roles : RoleRows) :
    AsCreated { db with users := users, roles := roles } :=
  ⟨h.declared, h.caseless, h.refusals⟩

theorem table_users (h : db.AsCreated) : db.table? "users" = some usersTable := by
  rw [table?, h.declared]
  rfl

theorem table_roles (h : db.AsCreated) : db.table? "roles" = some rolesTable := by
  rw [table?, h.declared]
  rfl

theorem naming_users (h : db.AsCreated) {columns : List String}
    (hc : columns.find? (!usersTable.hasColumn ·) = none) : db.naming "users" columns = .ok usersTable := by
  simp only [naming, h.table_users, hc]

theorem naming_roles (h : db.AsCreated) {columns : List String}
    (hc : columns.find? (!rolesTable.hasColumn ·) = none) : db.naming "roles" columns = .ok rolesTable := by
  simp only [naming, h.table_roles, hc]

theorem follows_eq (h : db.AsCreated) (user : String × Option String) (role : String × String) :
    db.follows user role = decide (role.1 = user.1) := by
  have hrules : db.ownership = rolesTable.foreignKeys := by rw [ownership, h.table_roles, Option.elim]
  rw [follows, hrules]
  simp [rolesTable, belongs_eq List.mem_cons_self]

theorem restrains_eq (h : db.AsCreated) (user : String × Option String) (role : String × String) :
    db.restrains user role = false := by
  have hrules : db.ownership = rolesTable.foreignKeys := by rw [ownership, h.table_roles, Option.elim]
  rw [restrains, hrules]
  simp [rolesTable]

/-- What is there already is not created again. -/
theorem create (h : db.AsCreated) (readOnly : Bool) {c : Creation} (hc : c ∈ schema) :
    db.create readOnly c = .ok db := by
  have hknown : (c.declaration.tables.find? fun name => (Database.new.table? name).isNone) = none ∧
      Database.new.declared.has c.declaration.id = true ∧ c.ifNotExists = true := by
    revert c
    decide
  have htables (name : String) : db.table? name = Database.new.table? name := by rw [table?, table?, h.declared]
  obtain ⟨hneeded, hhas, hguard⟩ := hknown
  simp only [Database.create, htables, hneeded, h.declared, hhas, hguard, if_true]

/-- Setting up the schema again changes nothing, also where nothing could be changed. -/
theorem runSchema (h : db.AsCreated) (readOnly : Bool) :
    runCreations (fun c db => db.create readOnly c) db schema = (schema, db, .ok ()) :=
  runCreations_of_served fun _ hc => h.create readOnly hc

theorem setUp (h : db.AsCreated) (readOnly : Bool) :
    Relational.setUp (fun c db => db.create readOnly c) db = (schema, db, .ok ()) :=
  runCreations_of_served fun _ hc => by simp only [h.create readOnly hc, Except.mapError]

/-! ## Statements that read -/

theorem findUser (h : db.AsCreated) : db.findUser email = .ok (db.users.find? email) := by
  rw [Database.findUser, h.naming_users rfl]
  rfl

theorem rolesOf (h : db.AsCreated) : db.rolesOf email = .ok (rolesFor db.roles.keys email) := by
  rw [Database.rolesOf, h.naming_roles rfl]
  rfl

theorem liveRoles (h : db.AsCreated) : db.liveRoles = .ok (distinct (db.roles.keys.map (·.2))) := by
  rw [Database.liveRoles, h.naming_roles rfl]
  rfl

theorem countRoles (h : db.AsCreated) : db.countRoles = .ok db.roles.keys.length := by
  rw [Database.countRoles, h.naming_roles rfl]
  simp [KeyTable.size, KeyTable.keys, pure, Except.pure, bind, Except.bind]

theorem joined (h : db.AsCreated) (s : Selection) :
    db.joined s = .ok (leftJoin (db.users.rows.filter (db.selects s)) db.roles.keys) := by
  rw [Database.joined, h.naming_users rfl, h.naming_roles rfl]
  rfl

/-! ## Statements that write -/

theorem insertUser_eq (h : db.AsCreated) : db.insertUser (some email) fullName =
    if db.users.has email then .error .unique
    else .ok { db with users := db.users.insert email fullName } := by
  have hrequired : usersTable.requires "full_name" = false := by decide
  rw [Database.insertUser, h.naming_users rfl]
  simp [keyValue, hrequired, h.refusals, h.caseless, hasUserLike_eq, bind, Except.bind]

theorem insertUser (h : db.AsCreated) (hnew : db.users.has email = false) :
    db.insertUser (some email) fullName = .ok { db with users := db.users.insert email fullName } := by
  rw [h.insertUser_eq, hnew]
  rfl

theorem setFullName (h : db.AsCreated) (email : String) (fullName : Option String) :
    db.setFullName email fullName =
      .ok (if db.users.has email then ({ db with users := db.users.insert email fullName }, 1) else (db, 0)) := by
  have hrequired : usersTable.requires "full_name" = false := by decide
  rw [Database.setFullName, h.naming_users rfl]
  cases db.users.has email <;> simp [hrequired, h.refusals, bind, Except.bind]

theorem insertRole_eq (h : db.AsCreated) {role : String} : db.insertRole (some email) (some role) =
    if db.roles.has (email, role) then .error .unique
    else if db.users.has email then .ok { db with roles := db.roles.insert (email, role) () }
    else .error .foreignKey := by
  rw [Database.insertRole, h.naming_roles rfl]
  simp [keyValue, h.refusals, hasRoleLike_eq, hasOwners_eq, bind, Except.bind]

theorem insertRole (h : db.AsCreated) (hu : db.users.has email = true) {role : String}
    (hnew : db.roles.has (email, role) = false) :
    db.insertRole (some email) (some role) =
      .ok { db with roles := db.roles.insert (email, role) () } := by
  rw [h.insertRole_eq, hnew, hu]
  rfl

theorem insertRoles (h : db.AsCreated) (hu : db.users.has email = true) (hroles : roles.Nodup)
    (hnew : ∀ role ∈ roles, db.roles.has (email, role) = false) (hfew : 2 * roles.length ≤ parameterLimit) :
    db.insertRoles email roles = .ok { db with roles := withRows db.roles email roles } := by
  have hrows : roles.foldlM (fun db role => db.insertRole (some email) (some role)) db =
      .ok { db with roles := withRows db.roles email roles } := by
    clear hfew
    induction roles generalizing db with
    | nil => rfl
    | cons role roles ih =>
      obtain ⟨hrole, hroles⟩ := List.nodup_cons.1 hroles
      rw [List.foldlM_cons, h.insertRole hu (hnew role List.mem_cons_self)]
      refine ih (h.content _ _) hu hroles fun role' hr => ?_
      rw [KeyTable.has_insert, hnew role' (List.mem_cons_of_mem _ hr)]
      have hne : role' ≠ role := fun e => hrole (e ▸ hr)
      simp [hne]
  rw [Database.insertRoles, prepare, if_pos hfew]
  exact hrows

theorem deleteRoles (h : db.AsCreated) (email : String) (hfew : 1 + roles.length ≤ parameterLimit) : ∃ n,
    db.deleteRoles email roles = .ok ({ db with roles := withoutRows db.roles email roles }, n) := by
  rw [Database.deleteRoles, prepare, if_pos hfew, h.naming_roles rfl]
  simp only [h.refusals, bind, Except.bind]
  exact ⟨_, if_neg (by simp)⟩

theorem deleteUser (h : db.AsCreated) (email : String) :
    db.deleteUser email = .ok (if db.users.has email then
      ({ db with users := db.users.erase email, roles := db.roles.filter fun k _ => k.1 ≠ email }, 1)
      else (db, 0)) := by
  rw [Database.deleteUser, h.naming_users rfl, KeyTable.has_eq]
  cases hx : db.users.find? email with
  | none => simp [bind, Except.bind]
  | some fullName => simp [bind, Except.bind, h.follows_eq, h.restrains_eq, h.refusals]

end AsCreated

/-! ## Statements with too many parameters -/

theorem insertRoles_many (db : Database) (email : String) (h : parameterLimit < 2 * roles.length) :
    db.insertRoles email roles = .error tooMany := by
  rw [Database.insertRoles, prepare, if_neg (Nat.not_le.2 h)]
  rfl

theorem deleteRoles_many (db : Database) (email : String) (h : parameterLimit < 1 + roles.length) :
    db.deleteRoles email roles = .error tooMany := by
  rw [Database.deleteRoles, prepare, if_neg (Nat.not_le.2 h)]
  rfl

end Database

end Roster.Relational
