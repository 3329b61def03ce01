import Roster.KeyTable
import Roster.Script

/-!
# The engine of the embedded store

A file with two tables: the record of every user under its email, and the role index, whose keys
carry everything and whose values are empty. Calls work inside a transaction. A reading one sees
the tables as they were when it began; a writing one works on a copy that takes their place when
it is committed and is forgotten otherwise.
-/

namespace Roster.Embedded

/-- The content of the file. -/
structure Tables where
  /-- Records by email. -/
  users : KeyTable String Bytes
  /-- The role index. -/
  index : KeyTable Bytes Bytes

/-- No users and no roles. -/
def Tables.empty : Tables := ⟨.empty, .empty⟩

/-- The names of the two tables. -/
inductive TableName where
  | users
  | index
  deriving DecidableEq, Repr

/-- Calls of the engine, each with the type of its reply. -/
inductive Call : Type → Type where
  /-- Takes hold of the open file; false when the store is closed. -/
  | takeHandle : Call Bool
  /-- Lets the file go for all later calls; false when the store was closed already. -/
  | dropHandle : Call Bool
  /-- Hands the rest of the work to a worker, which goes on even when the caller goes away. -/
  | handOver : Call Unit
  | beginRead : Call Unit
  | beginWrite : Call Unit
  | openTable (t : TableName) : Call Unit
  /-- The record under an email. -/
  | record (email : String) : Call (Option Bytes)
  /-- All records, by email. -/
  | records : Call (List (String × Bytes))
  | putRecord (email : String) (record : Bytes) : Call Unit
  /-- Removes a record and brings it back. -/
  | takeRecord (email : String) : Call (Option Bytes)
  /-- All keys of the index, ascending. -/
  | members : Call (List Bytes)
  /-- The keys of the index from `low` on and before `high`, ascending. -/
  | membersWithin (low high : Bytes) : Call (List Bytes)
  | putMember (key : Bytes) : Call Unit
  /-- Removes a key of the index; false if it was not there. -/
  | takeMember (key : Bytes) : Call Bool
  /-- Whether the caller has gone away. -/
  | callerGone : Call Bool
  | abort : Call Unit
  | commit : Call Unit

/-- What all callers of a store share. -/
structure Shared where
  /-- The store has not been closed. -/
  isOpen : Bool
  tables : Tables

/-- What a caller works on. -/
inductive View where
  | none
  | reading (t : Tables)
  | writing (t : Tables)

/-- The tables that are seen. -/
def View.tables : View → Tables
  | none => .empty
  | reading t => t
  | writing t => t

/-- What belongs to one caller. -/
structure Caller where
  view : View
  /-- The caller went away. -/
  gone : Bool
  /-- Its work has been handed to a worker. -/
  handedOver : Bool

/-- A caller that waits for its answer. -/
def Caller.waiting : Caller := ⟨.none, false, false⟩

/-- A caller that goes away as soon as its work is handed to a worker. -/
def Caller.leaving : Caller := ⟨.none, true, false⟩

/-- Serves a call. The file itself never fails. -/
def serve {β : Type} (c : Call β) (s : Shared × Caller) : Except String β × (Shared × Caller) :=
  let (shared, caller) := s
  let t := caller.view.tables
  let write (t : Tables) : Shared × Caller := (shared, { caller with view := .writing t })
  match c with
  | .takeHandle => (.ok shared.isOpen, s)
  | .dropHandle => (.ok shared.isOpen, ({ shared with isOpen := false }, caller))
  | .handOver => (.ok (), (shared, { caller with handedOver := true }))
  | .beginRead => (.ok (), (shared, { caller with view := .reading shared.tables }))
  | .beginWrite => (.ok (), (shared, { caller with view := .writing shared.tables }))
  | .openTable _ => (.ok (), s)
  | .record email => (.ok (t.users.find? email), s)
  | .records => (.ok t.users.rows, s)
  | .putRecord email record => (.ok (), write { t with users := t.users.insert email record })
  | .takeRecord email => (.ok (t.users.find? email), write { t with users := t.users.erase email })
  | .members => (.ok t.index.keys, s)
  | .membersWithin low high => (.ok (t.index.keysWithin low high), s)
  | .putMember key => (.ok (), write { t with index := t.index.insert key [] })
  | .takeMember key => (.ok (t.index.has key), write { t with index := t.index.erase key })
  | .callerGone => (.ok caller.gone, s)
  | .abort => (.ok (), (shared, { caller with view := .none }))
  | .commit =>
    match caller.view with
    | .writing t => (.ok (), ({ shared with tables := t }, { caller with view := .none }))
    | _ => (.ok (), (shared, { caller with view := .none }))

end Roster.Embedded
