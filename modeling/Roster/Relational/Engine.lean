import Roster.Relational.Database
import Roster.Script

/-!
# The engine of the relational store

Calls are statements on the one connection that a store has. A transaction works on a draft of the
database, which takes its place when it is committed and is forgotten otherwise; a statement
outside a transaction takes effect at once.
-/

namespace Roster.Relational

/-- Calls of the engine, each with the type of its reply. -/
inductive Call : Type → Type where
  /-- Takes hold of the connection; false when the store is closed. -/
  | takeConnection : Call Bool
  /-- Gives the connection up for all later calls; false when the store was closed already. -/
  | dropConnection : Call Bool
  /-- Waits for the connections in use to end. -/
  | closePool : Call Unit
  | begin : Call Unit
  | findUser (email : String) : Call (Option (Option String))
  | insertUser (email : String) (fullName : Option String) : Call Unit
  | setFullName (email : String) (fullName : Option String) : Call Nat
  | rolesOf (email : String) : Call (List String)
  | insertRoles (email : String) (roles : List String) : Call Unit
  | deleteRoles (email : String) (roles : List String) : Call Nat
  | deleteUser (email : String) : Call Nat
  | joined (s : Database.Selection) : Call (List ((String × Option String) × Option String))
  | liveRoles : Call (List String)
  | countRoles : Call Nat
  | commit : Call Unit

/-- What all callers of a store share. -/
structure Shared where
  /-- The store has not been closed. -/
  isOpen : Bool
  /-- The database was opened to be read only. -/
  readOnly : Bool
  database : Database

/-- Why a statement that writes is refused where the database may only be read. -/
def readOnlyFault : DbFault := .other Database.readOnlyReason

/-- What a statement that writes comes to. -/
def Shared.writing {α : Type} (s : Shared) (r : Except DbFault α) : Except DbFault α :=
  if s.readOnly then .error readOnlyFault else r

/-- The draft of a caller's transaction, if it has begun one. -/
abbrev Draft := Option Database

/-- The caller has to wait for the reply, and may go away meanwhile. -/
def Call.waits {β : Type} : Call β → Bool
  | .takeConnection | .dropConnection => false
  | _ => true

/-- Serves a call. Only the rules of the database refuse anything, and what it was opened for. -/
def serve {β : Type} (c : Call β) (s : Shared × Draft) : Except DbFault β × (Shared × Draft) :=
  let (shared, draft) := s
  let db := draft.getD shared.database
  let put (db : Database) : Shared × Draft :=
    if draft.isSome then (shared, some db) else ({ shared with database := db }, none)
  let write (r : Except DbFault Database) : Except DbFault Unit × (Shared × Draft) :=
    match shared.writing r with
    | .ok db => (.ok (), put db)
    | .error f => (.error f, s)
  let change (r : Except DbFault (Database × Nat)) : Except DbFault Nat × (Shared × Draft) :=
    match shared.writing r with
    | .ok (db, n) => (.ok n, put db)
    | .error f => (.error f, s)
  match c with
  | .takeConnection => (.ok shared.isOpen, s)
  | .dropConnection => (.ok shared.isOpen, ({ shared with isOpen := false }, draft))
  | .closePool => (.ok (), s)
  | .begin => (.ok (), (shared, some shared.database))
  | .findUser email => (db.findUser email, s)
  | .insertUser email fullName => write (db.insertUser (some email) fullName)
  | .setFullName email fullName => change (db.setFullName email fullName)
  | .rolesOf email => (db.rolesOf email, s)
  | .insertRoles email roles => write (db.insertRoles email roles)
  | .deleteRoles email roles => change (db.deleteRoles email roles)
  | .deleteUser email => change (db.deleteUser email)
  | .joined selection => (db.joined selection, s)
  | .liveRoles => (db.liveRoles, s)
  | .countRoles => (db.countRoles, s)
  | .commit => (.ok (), ({ shared with database := db }, none))

end Roster.Relational
