import Roster.Text.Quoted

/-!
# Errors of a store

Three of them describe what a caller did: the user is unknown, already there, or unfit to be
stored. The others are faults of the infrastructure.
-/

namespace Roster

/-- Why a store refused a call. -/
inductive StoreError where
  | userNotFound
  | userAlreadyExists
  | validation (reason : String)
  /-- The engine below the store failed during an operation. -/
  | storage (operation message : String)
  /-- The record under a key could not be read. -/
  | serialization (key message : String)
  | closed
  | cancelled
  deriving DecidableEq, Repr

namespace StoreError

/-- The sentence shown to people. -/
def message : StoreError → String
  | userNotFound => "user not found"
  | userAlreadyExists => "user already exists"
  | validation reason => "validation error: " ++ reason
  | storage operation message => "storage error during " ++ operation ++ ": " ++ message
  | serialization key message => "serialization error for " ++ Text.quoted key ++ ": " ++ message
  | closed => "store is closed"
  | cancelled => "operation cancelled"

/-- The name of the kind of error. -/
def kind : StoreError → String
  | userNotFound => "UserNotFound"
  | userAlreadyExists => "UserAlreadyExists"
  | validation _ => "Validation"
  | storage .. => "Storage"
  | serialization .. => "Serialization"
  | closed => "Closed"
  | cancelled => "Cancelled"

/-- The kind with its quoted details, for diagnosis. -/
def diagnosis : StoreError → String
  | e@(validation reason) => e.kind ++ "(" ++ Text.quoted reason ++ ")"
  | e@(storage operation message) =>
    e.kind ++ " \x7b op: " ++ Text.quoted operation ++ ", message: " ++ Text.quoted message ++ " \x7d"
  | e@(serialization key message) =>
    e.kind ++ " \x7b key: " ++ Text.quoted key ++ ", message: " ++ Text.quoted message ++ " \x7d"
  | e => e.kind

/-- The number by which other systems know the error. -/
def code : StoreError → Nat
  | validation _ => 2001
  | userAlreadyExists => 2002
  | userNotFound => 2003
  | storage .. => 2101
  | serialization .. => 2102
  | closed => 2103
  | cancelled => 2104

/-- The status with which a web service would answer. -/
def status : StoreError → Nat
  | userNotFound => 404
  | userAlreadyExists => 409
  | validation _ => 400
  | _ => 500

/-- The fault lies with the infrastructure and not with the caller. -/
def isInfrastructure (e : StoreError) : Bool := e.status == 500

end StoreError

end Roster
