import Roster.Embedded.Operations

/-!
# The embedded store

A store plays the operations of its requests against the content of its file. A file that is not
open is an image, whose tables may be missing or be of another kind; opening completes it.
-/

namespace Roster.Embedded

/-- A store over the file at `path`. -/
structure Store where
  path : String
  shared : Shared

namespace Store

/-- What a call leaves behind. -/
abbrev Outcome := Script.Outcome Store StoreError Answer

/-- Plays the operation of a request for a caller. -/
def play (s : Store) (caller : Caller) (r : Request) :
    Script.Outcome (Shared × Caller) StoreError Answer :=
  (Operation.ofRequest s.path r).run serve (s.shared, caller)

/-- Serves a request. -/
def perform (s : Store) (r : Request) : Outcome :=
  let o := s.play .waiting r
  ⟨o.answer, { s with shared := o.state.1 }, o.events⟩

/-- Serves a request whose caller goes away at the first moment it has to wait. If the answer was
there before, the caller got it; otherwise a worker goes on, and nobody hears the answer. -/
def abandon (s : Store) (r : Request) : Option (Except StoreError Answer) × Store × List Log.Event :=
  let o := s.play .leaving r
  (if o.state.2.handedOver then none else some o.answer, { s with shared := o.state.1 }, o.events)

end Store

/-! ## Files that are not open -/

/-- A table of a file, as it may be found. -/
inductive Slot (α : Type) where
  | missing
  /-- A table of another kind under the same name. -/
  | foreign
  | present (a : α)

/-- The content of a file that is not open. -/
structure Image where
  users : Slot (KeyTable String Bytes)
  index : Slot (KeyTable Bytes Bytes)

/-- The table, created if it is missing; none if it is of another kind. -/
def Slot.complete? {κ α : Type} [KeyOrder κ] : Slot (KeyTable κ α) → Option (KeyTable κ α)
  | missing => some .empty
  | foreign => none
  | present t => some t

namespace Image

/-- A new file. -/
def new : Image := ⟨.missing, .missing⟩

/-- The file of a store that was closed. -/
def ofTables (t : Tables) : Image := ⟨.present t.users, .present t.index⟩

/-- The tables of the file, missing ones created; none if one of them is of another kind. -/
def tables? (i : Image) : Option Tables := do
  let users ← i.users.complete?
  let index ← i.index.complete?
  return ⟨users, index⟩

end Image

/-- A change made to a file behind the store's back. -/
inductive Edit where
  | putUser (key : String) (value : Bytes)
  | deleteUser (key : String)
  | putIndex (key value : Bytes)
  | deleteIndex (key : Bytes)
  | dropUsers
  | dropIndex
  /-- Puts a table of another kind in the place of a table. -/
  | retype (t : TableName)

/-- The content of a table that is to be changed; none if it is of another kind. -/
def Slot.change? {κ α : Type} [KeyOrder κ] (f : KeyTable κ α → KeyTable κ α)
    (s : Slot (KeyTable κ α)) : Option (Slot (KeyTable κ α)) :=
  s.complete?.map fun t => .present (f t)

/-- The image after a change; none if the change cannot be made. -/
def Edit.apply? (i : Image) : Edit → Option Image
  | putUser key value => do return { i with users := ← i.users.change? (·.insert key value) }
  | deleteUser key => do return { i with users := ← i.users.change? (·.erase key) }
  | putIndex key value => do return { i with index := ← i.index.change? (·.insert key value) }
  | deleteIndex key => do return { i with index := ← i.index.change? (·.erase key) }
  | dropUsers => some { i with users := .missing }
  | dropIndex => some { i with index := .missing }
  | retype .users => some { i with users := .foreign }
  | retype .index => some { i with index := .foreign }

/-- The image after all changes of a transaction; none, and nothing is changed, if one cannot be
made. -/
def Image.edit? (i : Image) (edits : List Edit) : Option Image := edits.foldlM Edit.apply? i

end Roster.Embedded
