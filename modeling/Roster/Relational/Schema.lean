import Roster.Log.Event
import Roster.User

/-!
# The schema

Two tables and two indexes. A user is a row of `users` under its email; each role it holds is a
row of `roles`, which belongs to the user's row and goes when that goes. Both are declared as data: the
statements that create them are written from it, in the dialect of the database, and a database obeys
what it finds declared.
-/

namespace Roster.Relational

/-- A kind of database. -/
inductive Dialect where
  | sqlite
  | postgres
  | mysql
  deriving DecidableEq, Repr

namespace Dialect

/-- A name as the dialect quotes it. -/
def quote (d : Dialect) (name : String) : String :=
  match d with
  | mysql => "`" ++ name ++ "`"
  | _ => "\"" ++ name ++ "\""

/-- The dialect gives constraints names. -/
def namesConstraints (d : Dialect) : Bool := d != sqlite

/-- The dialect can leave an index alone that is already there. -/
def skipsKnownIndexes (d : Dialect) : Bool := d != mysql

end Dialect

/-! ## Declarations -/

/-- A column, for texts of limited length. -/
structure Column where
  name : String
  limit : Nat
  /-- Every row has a value in the column. -/
  required : Bool
  /-- The column alone is the key of its table. -/
  isKey : Bool
  deriving DecidableEq, Repr

/-- A rule by which the rows of a table belong to rows of another one. -/
structure ForeignKey where
  name : String
  column : String
  /-- The table and the column that have the owner of a row. -/
  ownerTable : String
  ownerColumn : String
  /-- Rows are deleted with their owner; otherwise an owner cannot be deleted. -/
  cascades : Bool
  deriving DecidableEq, Repr

/-- The columns of a key: one that is it alone, or several together. -/
def keyNames (columns : List Column) (together : List String) : List String :=
  (columns.filter (·.isKey)).map (·.name) ++ together

/-- A table as it is declared. -/
structure TableSchema where
  name : String
  columns : List Column
  /-- The columns that are the key together. -/
  together : List String
  foreignKeys : List ForeignKey
  /-- There is a key, and every row has all of it. -/
  keyed : keyNames columns together ≠ [] ∧
    ∀ name ∈ keyNames columns together, ∃ c ∈ columns, c.name = name ∧ c.required = true := by decide
  deriving DecidableEq, Repr

namespace TableSchema

/-- The columns by which rows are told apart. -/
def key (t : TableSchema) : List String := keyNames t.columns t.together

/-- The table has a column. -/
def hasColumn (t : TableSchema) (name : String) : Bool := t.columns.any (·.name = name)

/-- Rows need a value in the column. -/
def requires (t : TableSchema) (name : String) : Bool := t.columns.any fun c => c.name = name && c.required

end TableSchema

/-- An index as it is declared. -/
structure IndexSchema where
  name : String
  table : String
  column : String
  deriving DecidableEq, Repr

/-- What a database may have, beside rows. -/
inductive Declaration where
  | table (t : TableSchema)
  | index (i : IndexSchema)
  deriving DecidableEq, Repr

/-- The kind and the name, by which a database finds it. -/
def Declaration.id : Declaration → String × String
  | table t => ("table", t.name)
  | index i => ("index", i.name)

/-- The tables that have to be there for it. -/
def Declaration.tables : Declaration → List String
  | table _ => []
  | index i => [i.table]

/-- It is a table of this name, or needs one. -/
def Declaration.concerns (d : Declaration) (name : String) : Bool := d.id = ("table", name) || d.tables.contains name

/-- A statement that creates something. -/
structure Creation where
  /-- Nothing is done if it is there already. -/
  ifNotExists : Bool
  declaration : Declaration
  deriving DecidableEq, Repr

/-! ## Declarations in words -/

/-- A column in a statement. -/
def Column.sql (d : Dialect) (c : Column) : String :=
  s!"{d.quote c.name} varchar({c.limit}) " ++ (if c.required then "NOT NULL" else "NULL") ++
    (if c.isKey then " PRIMARY KEY" else "")

/-- A rule of ownership in a statement. -/
def ForeignKey.sql (d : Dialect) (f : ForeignKey) : String :=
  let constraint := if d.namesConstraints then s!"CONSTRAINT {d.quote f.name} " else ""
  s!"{constraint}FOREIGN KEY ({d.quote f.column}) REFERENCES {d.quote f.ownerTable} ({d.quote f.ownerColumn})" ++
    (if f.cascades then " ON DELETE CASCADE" else "")

/-- What stands between the parentheses of a table's statement. -/
def TableSchema.parts (d : Dialect) (t : TableSchema) : List String :=
  let names := String.intercalate ", " (t.together.map d.quote)
  t.columns.map (·.sql d) ++ (if t.together.isEmpty then [] else [s!"PRIMARY KEY ({names})"]) ++
    t.foreignKeys.map (·.sql d)

/-- The statement in words. -/
def Creation.sql (d : Dialect) (c : Creation) : String :=
  let guard (known : Bool) : String := if c.ifNotExists && known then "IF NOT EXISTS " else ""
  match c.declaration with
  | .table t =>
    let parts := String.intercalate ", " (t.parts d)
    s!"CREATE TABLE {guard true}{d.quote t.name} ( {parts} )"
  | .index i =>
    s!"CREATE INDEX {guard d.skipsKnownIndexes}{d.quote i.name} ON {d.quote i.table} ({d.quote i.column})"

/-! ## The schema -/

/-- The table of users. -/
def usersTable : TableSchema where
  name := "users"
  columns := [⟨"email", emailLimit, true, true⟩, ⟨"full_name", fullNameLimit, false, false⟩]
  together := []
  foreignKeys := []

/-- The table of roles. -/
def rolesTable : TableSchema where
  name := "roles"
  columns := [⟨"email", emailLimit, true, false⟩, ⟨"role", roleLimit, true, false⟩]
  together := ["email", "role"]
  foreignKeys := [⟨"fk_roles_users", "email", "users", "email", true⟩]

/-- The statements of the schema, in their order. -/
def schema : List Creation :=
  [⟨true, .table usersTable⟩, ⟨true, .table rolesTable⟩, ⟨true, .index ⟨"idx_roles_role", "roles", "role"⟩⟩,
    ⟨true, .index ⟨"idx_roles_email", "roles", "email"⟩⟩]

/-- Why a database cannot be used. -/
inductive ModelError where
  | validation (reason : String)
  /-- The database reports a failure. -/
  | db (message : String)
  deriving DecidableEq, Repr

namespace ModelError

/-- The sentence shown to people. -/
def message : ModelError → String
  | validation reason => "validation error: " ++ reason
  | db message => "database error: " ++ message

/-- The name of the kind of error. -/
def kind : ModelError → String
  | validation _ => "Validation"
  | db _ => "Db"

/-- The kind with its quoted detail, for diagnosis. -/
def diagnosis : ModelError → String
  | e@(validation detail) | e@(db detail) => e.kind ++ "(" ++ Text.quoted detail ++ ")"

end ModelError

/-- Makes statements in turn on a connection that, from state to state, serves each or refuses it; the
first refusal ends it. Answers the statements that were made, each reported before, and the last state. -/
def runCreations {σ : Type} (serve : Creation → σ → Except String σ) (st : σ) :
    List Creation → List Creation × σ × Except ModelError Unit
  | [] => ([], st, .ok ())
  | c :: rest =>
    match serve c st with
    | .error message => ([c], st, .error (.db message))
    | .ok st =>
      let (made, last) := runCreations serve st rest
      (c :: made, last)

/-- Makes the statements of the schema on a connection that serves or refuses each by its text and its
place. Answers the texts of those that were made. -/
def ensureSchema (serve : Nat → String → Except String Unit) (d : Dialect) :
    List String × Except ModelError Unit :=
  let (made, _, result) := runCreations (fun c n => (serve n (c.sql d)).map fun () => n + 1) 0 schema
  (made.map (·.sql d), result)

end Roster.Relational
