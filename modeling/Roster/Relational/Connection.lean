import Roster.Files.Tree
import Roster.Relational.Schema
import Roster.Relational.Url
import Roster.Settings.StoreSettings

/-!
# Connections

Connecting finds the database that a URL names and makes sure that it has the schema. Databases of
other kinds than files are out of reach. On a connection statements run inside transactions, one
within another, or on their own.
-/

namespace Roster.Relational

open Files Settings

/-! ## Connecting -/

/-- Where a database stays when it is not in use. -/
inductive Home where
  /-- In memory, so nothing stays. -/
  | memory
  | file (p : Place)
  deriving DecidableEq, Repr

/-- What connecting leaves behind. -/
structure Connecting where
  /-- The database, where it stays, and whether it may only be read. -/
  result : Except ModelError (Database × Home × Bool)
  tree : Tree
  events : List Log.Event

/-- The place of a database file: steps up are made on the path, whether or not the places that it
passes are there. -/
def placeOf (path : String) : Place := (parts path).foldl Place.step (Tree.start path)

/-- The text of a failure to reach a database. -/
def unreachable (reason : String) : ModelError := .db ("Connection Error: " ++ reason)

/-- The place of a file that may be opened, and its database, if it holds one. -/
def openFile (l : Location) (path : String) (t : Tree) : Except ModelError (Place × Option Database) :=
  let p := placeOf path
  let refuse {α : Type} : Except ModelError α := .error (unreachable "unable to open database file")
  if hasNul path ∨ byteLength path > Tree.pathLimit ∨ p.any (byteLength · > Tree.nameLimit) then refuse
  else
    match t.node? p with
    | some .directory => refuse
    | some (.file (.bytes [])) => .ok (p, none)
    | some (.file (.relational db)) => .ok (p, some db)
    | some (.file _) => .ok (p, none)
    | none => if l.create && !l.readOnly && t.isDirectory p.up then .ok (p, none) else refuse

/-- The file holds something that is no database. -/
def isForeign (t : Tree) (p : Place) : Bool :=
  match t.node? p with
  | some (.file (.bytes b)) => !b.isEmpty
  | some (.file (.embedded _)) => true
  | _ => false

/-- Makes the statements of the schema on a database, each served by `serve` or refused. -/
def setUp (serve : Creation → Database → Except String Database) (db : Database) :
    List Creation × Database × Except ModelError Unit :=
  runCreations (fun c db => (serve c db).mapError ("Execution Error: " ++ ·)) db schema

/-- What connecting leaves behind once the statements of the schema were made: those that were, the database
then, and whether all could be made. -/
def connected (s : StoreSettings) (home : Home) (readOnly : Bool)
    (setting : List Creation × Database × Except ModelError Unit) (t : Tree) : Connecting :=
  let (made, db, result) := setting
  let last : List Log.Event := if result.isOk then [.relationalConnected s.poolBounds.1] else []
  ⟨result.map fun () => (db, home, readOnly), t, made.map (fun c => .ensureSchema (c.sql .sqlite)) ++ last⟩

/-- Connects to a database in memory. If connections live for no time, it is gone after each statement, so
that there is no table for an index. -/
def connectMemory (s : StoreSettings) (l : Location) (t : Tree) : Connecting :=
  let serve (c : Creation) (db : Database) : Except String Database :=
    (if s.maxLifetime = 0 then .blank else db).create l.readOnly c
  connected s .memory l.readOnly (setUp serve .blank) t

/-- The tree with a database in the place of its file. A file that may only be read stays as it is, or is
empty if it is made. -/
def keepFile (t : Tree) (p : Place) (readOnly : Bool) (db : Database) : Tree :=
  if !readOnly then t.put p (.file (.relational db))
  else if (t.node? p).isSome then t
  else t.put p (.file (.bytes []))

/-- Connects to a file that was opened. -/
def connectFile (s : StoreSettings) (l : Location) (p : Place) (found : Option Database) (t : Tree) : Connecting :=
  let readOnly := l.readOnly || l.immutable
  if isForeign t p then
    connected s (.file p) readOnly (setUp (fun _ _ => .error "file is not a database") .blank) t
  else
    let setting := setUp (fun c db => db.create readOnly c) (found.getD .blank)
    connected s (.file p) readOnly setting (keepFile t p readOnly setting.2.1)

/-- Connects to the database at a location, and makes sure that it has the schema. -/
def connectAt (s : StoreSettings) (l : Location) (t : Tree) : Connecting :=
  match l.path with
  | none | some "" => connectMemory s l t
  | some path =>
    match openFile l path t with
    | .error e => ⟨.error e, t, []⟩
    | .ok (p, found) => connectFile s l p found t

/-- Connects to the database of the settings. -/
def connect (s : StoreSettings) (t : Tree) : Connecting :=
  let refuse (e : ModelError) : Connecting := ⟨.error e, t, []⟩
  if Text.isBlank s.url then refuse (.validation "database url required")
  else
    match schemeOf? s.url with
    | none => refuse (unreachable ("The connection string '" ++ s.url ++ "' cannot be parsed."))
    | some "sqlite" =>
      match location? s.url with
      | none => refuse (unreachable "error with configuration")
      | some l =>
        if s.acquireTimeout = 0 then
          refuse (unreachable "Connection pool timed out")
        else connectAt s l t
    | some _ => refuse (unreachable "no server can be reached")

/-! ## Statements and transactions -/

/-- A connection with its open transactions. -/
structure Connection where
  /-- The rows as they are seen. -/
  database : Database
  /-- The rows at the beginning of each open transaction, the innermost first. -/
  saved : List Database

/-- A step on a connection. -/
inductive Step where
  | insertUser (email fullName : Option String)
  | insertRole (email role : Option String)
  | deleteUser (email : String)
  | deleteRole (email role : String)
  | ensureSchema
  | begin
  | commit
  | rollback
  /-- Gives a transaction up without ending it. -/
  | drop
  deriving DecidableEq, Repr

namespace Connection

/-- A connection without a transaction. -/
def new (db : Database) : Connection := ⟨db, []⟩

/-- The connection with other rows. -/
def keep (c : Connection) (db : Database) : Connection := { c with database := db }

/-- The connection with the rows from the beginning of its innermost transaction. -/
def restore (c : Connection) : Connection :=
  match c.saved with
  | [] => c
  | db :: saved => ⟨db, saved⟩

/-- Makes a step; the answer is the number of rows that were deleted, or none for other steps. A
step that is refused changes nothing. -/
def step (c : Connection) : Step → Connection × Except DbFault (Option Nat)
  | .insertUser email fullName =>
    match c.database.insertUser email fullName with
    | .ok db => (c.keep db, .ok none)
    | .error f => (c, .error f)
  | .insertRole email role =>
    match c.database.insertRole email role with
    | .ok db => (c.keep db, .ok none)
    | .error f => (c, .error f)
  | .deleteUser email =>
    match c.database.deleteUser email with
    | .ok (db, n) => (c.keep db, .ok (some n))
    | .error f => (c, .error f)
  | .deleteRole email role =>
    match c.database.deleteRoles email [role] with
    | .ok (db, n) => (c.keep db, .ok (some n))
    | .error f => (c, .error f)
  | .ensureSchema =>
    let (_, db, result) := runCreations (fun creation db => db.create false creation) c.database schema
    (c.keep db, match result with
      | .ok () => .ok none
      | .error e => .error (.other e.message))
  | .begin => ({ c with saved := c.database :: c.saved }, .ok none)
  | .commit => ({ c with saved := c.saved.drop 1 }, .ok none)
  | .rollback | .drop => (c.restore, .ok none)

/-- The tables and indexes, by kind and name. -/
def objects (c : Connection) : List (String × String) := c.database.declared.keys

end Connection

end Roster.Relational
