import Roster.KeyTable
import Roster.Relational.Schema
import Roster.Text.Lowercase

/-!
# The relational database

The rows of the two tables, and the statements on them. A statement either is refused, and then
changes nothing, or it answers and leaves the database it leads to. Which columns there are, which
values a row needs, which rows may stand beside one another and which go together is read from what
the database finds declared.

A database may have been changed by others: columns may be gone, rows may be refused, and emails
may have to differ by more than the case of their ASCII letters.
-/

namespace Roster.Relational

/-- Why a statement is refused. -/
inductive DbFault where
  /-- A row with this key is there already. -/
  | unique
  /-- The row that owns the new one is missing. -/
  | foreignKey
  | other (message : String)
  deriving DecidableEq, Repr

/-- The fault in words. -/
def DbFault.message : DbFault → String
  | unique => "UNIQUE constraint failed"
  | foreignKey => "FOREIGN KEY constraint failed"
  | other message => message

/-- A row that somebody has forbidden to write. -/
inductive Refusal where
  | roleInsert (role : String)
  | roleDelete (role : String)
  | userInsert (email : String)
  | userUpdate (email : String)
  | userDelete (email : String)
  deriving DecidableEq, Repr

/-- The refusal concerns rows of the table of roles. -/
def Refusal.onRoles : Refusal → Bool
  | roleInsert _ | roleDelete _ => true
  | _ => false

/-- Tables and what has been done to them. -/
structure Database where
  /-- The tables and indexes that there are, by kind and name. -/
  declared : KeyTable (String × String) Declaration
  /-- Full names by email; a name may be missing. -/
  users : KeyTable String (Option String)
  /-- Pairs of email and role. -/
  roles : KeyTable (String × String) Unit
  /-- Emails differ by more than the case of their ASCII letters. -/
  caseless : Bool
  refusals : List Refusal

namespace Database

/-- The database without tables. -/
def blank : Database := ⟨.empty, .empty, .empty, false, []⟩

/-- The database with something declared. -/
def declare (db : Database) (d : Declaration) : Database := { db with declared := db.declared.insert d.id d }

/-- The database that the schema creates. -/
def new : Database := schema.foldl (fun db c => db.declare c.declaration) blank

/-! ## Declarations -/

/-- The declaration of a table. -/
def table? (db : Database) (name : String) : Option TableSchema :=
  match db.declared.find? ("table", name) with
  | some (.table t) => some t
  | _ => none

/-- Why a database that may only be read is not written. -/
def readOnlyReason : String := "attempt to write a readonly database"

/-- The database after a statement that creates something. -/
def create (db : Database) (readOnly : Bool) (c : Creation) : Except String Database :=
  match c.declaration.tables.find? fun name => (db.table? name).isNone with
  | some name => .error ("no such table: main." ++ name)
  | none =>
    if db.declared.has c.declaration.id then
      if c.ifNotExists then .ok db else .error (c.declaration.id.2 ++ " already exists")
    else if readOnly then .error readOnlyReason
    else .ok (db.declare c.declaration)

/-- A value that is required. -/
def notNull {α : Type} (column : String) : Except DbFault α :=
  .error (.other ("NOT NULL constraint failed: " ++ column))

/-- A row that is refused. -/
def refused {α : Type} : Except DbFault α := .error (.other "refused")

/-- A statement that names columns of a table needs them. -/
def naming (db : Database) (table : String) (columns : List String) : Except DbFault TableSchema :=
  match db.table? table with
  | none => .error (.other ("no such table: " ++ table))
  | some t =>
    match columns.find? (!t.hasColumn ·) with
    | some column => .error (.other ("no such column: " ++ table ++ "." ++ column))
    | none => .ok t

/-- The most parameters that a statement may have. -/
def parameterLimit : Nat := 32766

/-- Why a statement with more is refused. -/
def tooMany : DbFault := .other "too many SQL variables"

/-- A statement with this many parameters is prepared. -/
def prepare (parameters : Nat) : Except DbFault Unit :=
  if parameters ≤ parameterLimit then .ok () else .error tooMany

/-! ## Rows -/

/-- How a column is read from a user's row. -/
def userColumn? : String → Option ((String × Option String) → Option String)
  | "email" => some fun row => some row.1
  | "full_name" => some (·.2)
  | _ => none

/-- How a column is read from a role row, which has values in all of them. -/
def roleColumn? : String → Option ((String × String) → String)
  | "email" => some (·.1)
  | "role" => some (·.2)
  | _ => none

/-- The role row belongs to the user's row. -/
def belongs (f : ForeignKey) (role : String × String) (user : String × Option String) : Bool :=
  match roleColumn? f.column, userColumn? f.ownerColumn with
  | some owner, some owned => f.ownerTable = "users" && owned user = some (owner role)
  | _, _ => false

/-- There is a user's row with the same values in the columns of the key. -/
def hasUserLike (db : Database) (t : TableSchema) (row : String × Option String) : Bool :=
  let email := t.key.contains "email"
  let fullName := t.key.contains "full_name"
  db.users.rows.any fun other => (!email || other.1 = row.1) && (!fullName || other.2 = row.2)

/-- There is a role row with the same values in the columns of the key. -/
def hasRoleLike (db : Database) (t : TableSchema) (row : String × String) : Bool :=
  let email := t.key.contains "email"
  let role := t.key.contains "role"
  db.roles.rows.any fun other => (!role || other.1.2 = row.2) && (!email || other.1.1 = row.1)

/-- Every owner that the role row needs is there. -/
def hasOwners (db : Database) (t : TableSchema) (row : String × String) : Bool :=
  t.foreignKeys.all fun f => db.users.rows.any (belongs f row)

/-- The rules by which role rows belong to users. -/
def ownership (db : Database) : List ForeignKey := (db.table? "roles").elim [] TableSchema.foreignKeys

/-- The role row goes when the user's row goes. -/
def follows (db : Database) (user : String × Option String) (role : String × String) : Bool :=
  db.ownership.any fun f => f.cascades && belongs f role user

/-- The role row keeps the user's row from being deleted. -/
def restrains (db : Database) (user : String × Option String) (role : String × String) : Bool :=
  db.ownership.any fun f => !f.cascades && belongs f role user

/-- The value for a column that is part of a key, and so requires one. -/
def keyValue (t : TableSchema) (column : String) : Option String → Except DbFault String
  | some value => .ok value
  | none => notNull (t.name ++ "." ++ column)

/-! ## Statements that read -/

/-- The row of a user. -/
def findUser (db : Database) (email : String) : Except DbFault (Option (Option String)) := do
  let _ ← db.naming "users" ["email", "full_name"]
  return db.users.find? email

/-- The row of a user's role is there. -/
def findRole (db : Database) (email role : String) : Except DbFault Bool := do
  let _ ← db.naming "roles" ["email", "role"]
  return db.roles.has (email, role)

/-- The roles of an email, ascending. -/
def rolesOf (db : Database) (email : String) : Except DbFault (List String) := do
  let _ ← db.naming "roles" ["email", "role"]
  return (db.roles.keys.filter fun k => k.1 = email).map (·.2)

/-- The emails that have a role, ascending. -/
def membersOf (db : Database) (role : String) : Except DbFault (List String) := do
  let _ ← db.naming "roles" ["email", "role"]
  return (db.roles.keys.filter fun k => k.2 = role).map (·.1)

/-- Every user row beside each of its roles, or beside none if it has no role. -/
def leftJoin (users : List (String × Option String)) (roles : List (String × String)) :
    List ((String × Option String) × Option String) :=
  users.flatMap fun u =>
    match roles.filter fun k => k.1 = u.1 with
    | [] => [(u, none)]
    | own => own.map fun k => (u, some k.2)

/-- The users that a joined read selects. -/
inductive Selection where
  | everyone
  | email (email : String)
  | role (role : String)
  deriving DecidableEq, Repr

/-- The joined rows of the selected users, all their roles included. -/
def joined (db : Database) (s : Selection) :
    Except DbFault (List ((String × Option String) × Option String)) := do
  let _ ← db.naming "users" ["email", "full_name"]
  let _ ← db.naming "roles" ["email", "role"]
  let selected (u : String × Option String) : Bool :=
    match s with
    | .everyone => true
    | .email email => u.1 = email
    | .role role => db.roles.has (u.1, role)
  return leftJoin (db.users.rows.filter selected) db.roles.keys

/-- A list in ascending byte order, each text once. -/
def distinct (l : List String) : List String :=
  (l.foldl (fun (t : KeyTable String Unit) s => t.insert s ()) .empty).keys

/-- The different roles of all rows, ascending. -/
def liveRoles (db : Database) : Except DbFault (List String) := do
  let _ ← db.naming "roles" ["role"]
  return distinct (db.roles.keys.map (·.2))

/-- The number of role rows. -/
def countRoles (db : Database) : Except DbFault Nat := do
  let _ ← db.naming "roles" ["email", "role"]
  return db.roles.size

/-! ## Statements that write -/

/-- Two emails that differ at most by the case of their ASCII letters. -/
def sameCaseless (a b : String) : Bool := Text.asciiLowerChars a == Text.asciiLowerChars b

/-- Adds a user. -/
def insertUser (db : Database) (email fullName : Option String) : Except DbFault Database := do
  let t ← db.naming "users" ["email", "full_name"]
  let email ← keyValue t "email" email
  if fullName.isNone && t.requires "full_name" then notNull "users.full_name"
  else if db.refusals.contains (.userInsert email) then refused
  else if db.hasUserLike t (email, fullName) then .error .unique
  else if db.caseless && db.users.keys.any (sameCaseless email) then .error .unique
  else .ok { db with users := db.users.insert email fullName }

/-- Adds a role of a user. -/
def insertRole (db : Database) (email role : Option String) : Except DbFault Database := do
  let t ← db.naming "roles" ["email", "role"]
  let email ← keyValue t "email" email
  let role ← keyValue t "role" role
  if db.refusals.contains (.roleInsert role) then refused
  else if db.hasRoleLike t (email, role) then .error .unique
  else if db.hasOwners t (email, role) then .ok { db with roles := db.roles.insert (email, role) () }
  else .error .foreignKey

/-- Adds roles of a user in one statement, which has two parameters for each. -/
def insertRoles (db : Database) (email : String) (roles : List String) : Except DbFault Database := do
  prepare (2 * roles.length)
  roles.foldlM (fun db role => db.insertRole (some email) (some role)) db

/-- Gives a user another name; answers the number of rows it changed. -/
def setFullName (db : Database) (email : String) (fullName : Option String) :
    Except DbFault (Database × Nat) := do
  let t ← db.naming "users" ["email", "full_name"]
  if !db.users.has email then .ok (db, 0)
  else if fullName.isNone && t.requires "full_name" then notNull "users.full_name"
  else if db.refusals.contains (.userUpdate email) then refused
  else .ok ({ db with users := db.users.insert email fullName }, 1)

/-- Deletes those of the given roles that a user has, in one statement, which has a parameter for the
email and for each role; answers how many they were. -/
def deleteRoles (db : Database) (email : String) (roles : List String) :
    Except DbFault (Database × Nat) := do
  prepare (1 + roles.length)
  let _ ← db.naming "roles" ["email", "role"]
  let gone := roles.filter fun role => db.roles.has (email, role)
  if gone.any fun role => db.refusals.contains (.roleDelete role) then refused
  else
    let kept := db.roles.filter fun k _ => !(k.1 = email && roles.contains k.2)
    .ok ({ db with roles := kept }, db.roles.size - kept.size)

/-- Deletes a user, if there is one, and the role rows that go with it; answers the number of users
deleted. -/
def deleteUser (db : Database) (email : String) : Except DbFault (Database × Nat) := do
  let _ ← db.naming "users" ["email"]
  match db.users.find? email with
  | none => .ok (db, 0)
  | some fullName =>
    let user := (email, fullName)
    if db.refusals.contains (.userDelete email) then refused
    else if db.roles.keys.any fun k => db.follows user k && db.refusals.contains (.roleDelete k.2) then refused
    else
      let kept := db.roles.filter fun k _ => !db.follows user k
      if kept.keys.any (db.restrains user) then .error .foreignKey
      else .ok ({ db with users := db.users.erase email, roles := kept }, 1)

/-! ## Changes made behind the store's back -/

/-- A change made to the file of a database that is not in use. -/
inductive Edit where
  | putUser (email : String) (fullName : Option String)
  | putRole (email role : String)
  | deleteUser (email : String)
  | refuse (r : Refusal)
  | caseless
  /-- Gives both tables up and creates the one of users anew, with emails only. -/
  | forgetFullName
  /-- Creates the table of roles anew, with emails only, which belong to nobody. -/
  | forgetRole

/-- A table of users without a column for the full name. -/
def nameless : TableSchema where
  name := "users"
  columns := [⟨"email", emailLimit, true, true⟩]
  together := []
  foreignKeys := []

/-- A table of roles without a column for the role. -/
def roleless : TableSchema where
  name := "roles"
  columns := [⟨"email", emailLimit, true, true⟩]
  together := []
  foreignKeys := []

/-- A pair of different emails that differ only by the case of their ASCII letters. -/
def hasCaselessPair : List String → Bool
  | [] => false
  | a :: l => l.any (sameCaseless a) || hasCaselessPair l

/-- The database after a change. -/
def Edit.apply (db : Database) : Edit → Except DbFault Database
  | putUser email fullName => db.insertUser (some email) fullName
  | putRole email role => db.insertRole (some email) (some role)
  | deleteUser email => (db.deleteUser email).map (·.1)
  | refuse r => .ok { db with refusals := r :: db.refusals }
  | caseless =>
    if hasCaselessPair db.users.keys then .error .unique else .ok { db with caseless := true }
  | forgetFullName => .ok (blank.declare (.table nameless))
  | forgetRole =>
    let others := db.declared.filter fun _ d => !d.concerns "roles"
    let bare := { db with declared := others, roles := .empty, refusals := db.refusals.filter (!·.onRoles) }
    .ok (bare.declare (.table roleless))

/-- The database after changes, up to the first that is refused; whether all could be made. -/
def edit (db : Database) : List Edit → Database × Bool
  | [] => (db, true)
  | e :: edits =>
    match e.apply db with
    | .ok db => db.edit edits
    | .error _ => (db, false)

end Database

end Roster.Relational
