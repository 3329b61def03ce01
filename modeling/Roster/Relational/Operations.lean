import Roster.Relational.Engine
import Roster.Request
import Roster.RoleDiff

/-!
# Operations of the relational store

Each operation is a script of statements. Creating and updating write the user's row and its role
rows in one transaction; deleting is one statement, because role rows go with their user. Reads
take users and roles in one joined statement and fold its rows into users. An empty full name is
kept as a missing one.
-/

namespace Roster.Relational

open Log

/-- An operation of the store. -/
abbrev Operation := Script Call DbFault StoreError

namespace Operation

/-- The error of a statement within the operation `name`. -/
def storage (name : String) (f : DbFault) : StoreError := .storage name f.message

/-- A call of the engine within the operation `name`. -/
def ask {β : Type} (name : String) (c : Call β) : Operation β := Script.ask (storage name) c

/-- Refuses what is unfit to be stored. -/
def requireFit : Option Unfit → Operation Unit
  | none => pure ()
  | some unfit => .fail unfit.toError

/-- Takes hold of the connection. -/
def connection (name : String) : Operation Unit := do
  unless ← ask name .takeConnection do .fail .closed

/-- The full name as it is kept. -/
def fullNameColumn (u : User) : Option String := if u.fullName = "" then none else some u.fullName

/-- Adds role rows of a user. -/
def insertRoles (email : String) (roles : ItemSet String) : Operation Unit :=
  ask "add_roles" (.insertRoles email roles.sorted)

/-- Deletes role rows of a user. -/
def deleteRoles (email : String) (roles : ItemSet String) : Operation Unit := do
  let removed ← ask "remove_roles" (.deleteRoles email roles.sorted)
  Reports.report (.rowsRemoved email removed)

/-- Brings the role rows of a user from one set to another. -/
def syncRoles (email : String) (previous next : ItemSet String) : Operation Unit := do
  let changed ← adjustRoles previous next (deleteRoles email) (insertRoles email)
  unless changed do Reports.report (.rowsUntouched email)

/-- The error of the statement that adds a user: one that is already there is the caller's affair. -/
def insertError : DbFault → StoreError
  | .unique => .userAlreadyExists
  | f => storage "create_user" f

/-- Stores a user that is not there yet. -/
def createUser (u : User) : Operation Unit := do
  requireFit u.unfit?
  let u := u.normalized
  connection "create_user"
  ask "create_user" .begin
  if (← ask "create_user" (.findUser u.email)).isSome then .fail .userAlreadyExists
  Script.ask insertError (.insertUser u.email (fullNameColumn u))
  syncRoles u.email .empty u.roleSet
  ask "create_user" .commit
  Reports.report (.userCreated .relational u.email u.roles.length)

/-- Gives a user another name and other roles. -/
def updateUser (u : User) : Operation Unit := do
  requireFit u.unfit?
  let u := u.normalized
  connection "update_user"
  ask "update_user" .begin
  if (← ask "update_user" (.setFullName u.email (fullNameColumn u))) = 0 then .fail .userNotFound
  let previous ← ask "update_user" (.rolesOf u.email)
  syncRoles u.email (.ofList previous) u.roleSet
  ask "update_user" .commit
  Reports.report (.userUpdated .relational u.email u.roles.length)

/-- Removes a user and its role rows. -/
def deleteUser (email : String) : Operation Unit := do
  requireFit (unfitEmail? email)
  connection "delete_user"
  if (← ask "delete_user" (.deleteUser email)) = 0 then .fail .userNotFound
  Reports.report (.userDeleted .relational email)

/-- Puts the role of a joined row, if it has one, behind the roles of its user. -/
def addJoined (row : (String × Option String) × Option String) :
    List ((String × Option String) × List String) → List ((String × Option String) × List String)
  | [] => [(row.1, row.2.toList)]
  | group :: groups =>
    if group.1.1 = row.1.1 then (group.1, group.2 ++ row.2.toList) :: groups
    else group :: addJoined row groups

/-- The joined rows by user, users and roles in the order in which they come. -/
def grouped (rows : List ((String × Option String) × Option String)) :
    List ((String × Option String) × List String) :=
  rows.foldl (fun groups row => addJoined row groups) []

/-- The user of a row and its roles. -/
def toUser (group : (String × Option String) × List String) : User :=
  ⟨group.1.1, group.1.2.getD "", sortTexts group.2⟩

/-- The user of an email. -/
def getUser (email : String) : Operation User := do
  requireFit (unfitEmail? email)
  connection "get_user"
  match grouped (← ask "get_user" (.joined (.email email))) with
  | [] => .fail .userNotFound
  | group :: _ => return toUser group

/-- All users, by email. -/
def getUsers : Operation (List User) := do
  connection "get_users"
  return sortUsers ((grouped (← ask "get_users" (.joined .everyone))).map toUser)

/-- The users that hold a role, by email. No stored role contains NUL. -/
def getUsersByRole (role : String) : Operation (List User) := do
  if hasNul role then return []
  connection "get_users_by_role"
  return sortUsers ((grouped (← ask "get_users_by_role" (.joined (.role role)))).map toUser)

/-- The roles that some user holds, ascending. -/
def liveRoles : Operation (List String) := do
  connection "live_roles"
  ask "live_roles" .liveRoles

/-- The number of role rows. -/
def memberCount : Operation Nat := do
  connection "index_entry_count"
  ask "index_entry_count" .countRoles

/-- Gives up the store. -/
def close : Operation Unit := do
  unless ← ask "close" .dropConnection do .fail .closed
  ask "close" .closePool
  Reports.report .relationalClosed

/-- The operation that serves a request. -/
def ofRequest : Request → Operation Answer
  | .create u => do createUser u; return .done
  | .update u => do updateUser u; return .done
  | .delete email => do deleteUser email; return .done
  | .user email => return .user (← getUser email)
  | .users => return .users (← getUsers)
  | .usersByRole role => return .users (← getUsersByRole role)
  | .liveRoles => return .roles (← liveRoles)
  | .memberCount => return .count (← memberCount)
  | .close => do close; return .done

end Operation

/-- A store on a database. -/
structure Store where
  shared : Shared

/-- Serves a request. -/
def Store.perform (s : Store) (r : Request) : Script.Outcome Store StoreError Answer :=
  let o := (Operation.ofRequest r).run serve (s.shared, none)
  ⟨o.answer, ⟨o.state.1⟩, o.events⟩

/-- Serves a request whose caller goes away at the first moment it has to wait. If the answer was there
before, the caller got it; otherwise nothing more is done, and a transaction that was begun is lost. -/
def Store.abandon (s : Store) (r : Request) : Option (Except StoreError Answer) × Store × List Log.Event :=
  let (answer, state, events) := (Operation.ofRequest r).begin serve Call.waits (s.shared, none)
  (answer, ⟨state.1⟩, events)

end Roster.Relational
