import Roster.Embedded.Engine
import Roster.Embedded.MemberKey
import Roster.Record.Reader
import Roster.Record.Writer
import Roster.Request
import Roster.RoleDiff

/-!
# Operations of the embedded store

Each operation is a script of engine calls. A mutation writes the user's record and the index
entries of its roles in one transaction, and commits only if its caller is still there; whatever
stops it before the commit leaves the file as it was. The index is kept up by the difference of
the roles before and after, and is never rebuilt.
-/

namespace Roster.Embedded

open Log

/-- An operation of the store. -/
abbrev Operation := Script Call String StoreError

namespace Operation

/-- A call of the engine within the operation `name`. -/
def ask {β : Type} (name : String) (c : Call β) : Operation β := Script.ask (.storage name) c

/-- Refuses what is unfit to be stored. -/
def requireFit : Option Unfit → Operation Unit
  | none => pure ()
  | some unfit => .fail unfit.toError

/-- Takes hold of the file and hands the rest of the operation to a worker. -/
def enter (name : String) : Operation Unit := do
  if ← ask name .takeHandle then ask name .handOver else .fail .closed

/-- The user of a record. -/
def decodeUser (email : String) (record : Bytes) : Operation User :=
  match Record.decode record with
  | .ok u => pure u
  | .error f => .fail (.serialization email (f.message record))

/-- Indexes roles of a user. -/
def addMembers (email : String) (roles : ItemSet String) : Operation Unit := do
  ask "add_roles" (.openTable .index)
  roles.items.forM fun role => ask "add_roles" (.putMember (memberKey role email))

/-- Takes roles of a user out of the index. -/
def removeMembers (email : String) (roles : ItemSet String) : Operation Unit := do
  ask "remove_roles" (.openTable .index)
  roles.items.forM fun role => do
    unless ← ask "remove_roles" (.takeMember (memberKey role email)) do
      Reports.report (.entryMissing email role)

/-- Brings the index from one role set of a user to another. -/
def syncIndex (email : String) (previous next : ItemSet String) : Operation Unit := do
  let changed ← adjustRoles previous next (removeMembers email) (addMembers email)
  unless changed do Reports.report (.indexUntouched email)

/-- Commits, unless the caller went away meanwhile. -/
def commit (name : String) : Operation Unit := do
  if ← ask name .callerGone then
    .call .abort fun
      | .ok () => .report (.callerGone name) (.fail .cancelled)
      | .error e => .report (.abortFailed name e) (.fail (.storage name e))
  else ask name .commit

section Mutations

variable (sync : String → ItemSet String → ItemSet String → Operation Unit)

/-- Stores a user that is not there yet, and lets `sync` bring the index from no roles to those of the user. -/
def createUserBy (u : User) : Operation Unit := do
  requireFit u.unfit?
  let u := u.normalized
  enter "create_user"
  ask "create_user" .beginWrite
  ask "create_user" (.openTable .users)
  if (← ask "create_user" (.record u.email)).isSome then .fail .userAlreadyExists
  ask "create_user" (.putRecord u.email (Record.encode u))
  sync u.email .empty u.roleSet
  commit "create_user"
  Reports.report (.userCreated .embedded u.email u.roles.length)

/-- Gives a user another name and other roles, and lets `sync` bring the index from the ones to the others. -/
def updateUserBy (u : User) : Operation Unit := do
  requireFit u.unfit?
  let u := u.normalized
  enter "update_user"
  ask "update_user" .beginWrite
  ask "update_user" (.openTable .users)
  match ← ask "update_user" (.record u.email) with
  | none => .fail .userNotFound
  | some record =>
    let previous ← decodeUser u.email record
    ask "update_user" (.putRecord u.email (Record.encode u))
    sync u.email previous.roleSet u.roleSet
    commit "update_user"
    Reports.report (.userUpdated .embedded u.email u.roles.length)

/-- Removes a user, and lets `sync` remove its entries in the index. -/
def deleteUserBy (email : String) : Operation Unit := do
  requireFit (unfitEmail? email)
  enter "delete_user"
  ask "delete_user" .beginWrite
  ask "delete_user" (.openTable .users)
  match ← ask "delete_user" (.takeRecord email) with
  | none => .fail .userNotFound
  | some record =>
    let previous ← decodeUser email record
    sync email previous.roleSet .empty
    commit "delete_user"
    Reports.report (.userDeleted .embedded email)

end Mutations

/-- Stores a user that is not there yet. -/
def createUser (u : User) : Operation Unit := createUserBy syncIndex u

/-- Gives a user another name and other roles. -/
def updateUser (u : User) : Operation Unit := updateUserBy syncIndex u

/-- Removes a user and its entries in the index. -/
def deleteUser (email : String) : Operation Unit := deleteUserBy syncIndex email

/-- The user of an email. -/
def getUser (email : String) : Operation User := do
  requireFit (unfitEmail? email)
  enter "get_user"
  ask "get_user" .beginRead
  ask "get_user" (.openTable .users)
  match ← ask "get_user" (.record email) with
  | none => .fail .userNotFound
  | some record => decodeUser email record

/-- All users, by email. -/
def getUsers : Operation (List User) := do
  enter "get_users"
  ask "get_users" .beginRead
  ask "get_users" (.openTable .users)
  let records ← ask "get_users" .records
  return sortUsers (← records.mapM fun row => decodeUser row.1 row.2)

/-- The user that a key of the index leads to; a key that leads nowhere is reported. -/
def followMember (role : String) (key : Bytes) : Operation (Option User) :=
  match splitKey? key with
  | none => do
    Reports.report (.undecodableKey role)
    return none
  | some (_, email) => do
    match ← ask "get_users_by_role" (.record email) with
    | none =>
      Reports.report (.danglingEntry role email)
      return none
    | some record => return some (← decodeUser email record)

/-- The users that hold a role, by email. No stored role contains NUL. -/
def getUsersByRole (role : String) : Operation (List User) := do
  if hasNul role then return []
  enter "get_users_by_role"
  ask "get_users_by_role" .beginRead
  ask "get_users_by_role" (.openTable .index)
  ask "get_users_by_role" (.openTable .users)
  let (low, high) := roleRange role
  let keys ← ask "get_users_by_role" (.membersWithin low high)
  return sortUsers ((← keys.mapM (followMember role)).filterMap id)

/-- The roles of keys, each once as long as the keys of a role stand together. -/
def rolesInTurn : (last : Option String) → List Bytes → List String
  | _, [] => []
  | last, key :: keys =>
    match splitKey? key with
    | none => rolesInTurn last keys
    | some (role, _) =>
      if last = some role then rolesInTurn last keys else role :: rolesInTurn (some role) keys

/-- The roles that some user holds, ascending. -/
def liveRoles : Operation (List String) := do
  enter "live_roles"
  ask "live_roles" .beginRead
  ask "live_roles" (.openTable .index)
  return rolesInTurn none (← ask "live_roles" .members)

/-- The number of entries in the index. -/
def memberCount : Operation Nat := do
  enter "index_entry_count"
  ask "index_entry_count" .beginRead
  ask "index_entry_count" (.openTable .index)
  return (← ask "index_entry_count" .members).length

/-- Gives up the store, whose file is at `path`. -/
def close (path : String) : Operation Unit := do
  if ← ask "close" .dropHandle then Reports.report (.embeddedClosed path) else .fail .closed

/-- The operation that serves a request. -/
def ofRequest (path : String) : Request → Operation Answer
  | .create u => do createUser u; return .done
  | .update u => do updateUser u; return .done
  | .delete email => do deleteUser email; return .done
  | .user email => return .user (← getUser email)
  | .users => return .users (← getUsers)
  | .usersByRole role => return .users (← getUsersByRole role)
  | .liveRoles => return .roles (← liveRoles)
  | .memberCount => return .count (← memberCount)
  | .close => do close path; return .done

end Operation

end Roster.Embedded
