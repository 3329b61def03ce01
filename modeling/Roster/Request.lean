import Roster.User

/-!
# What a store can be asked

The requests that every store serves, and the form of their answers.
-/

namespace Roster

/-- A call on a store. -/
inductive Request where
  /-- Stores a user that is not there yet. -/
  | create (u : User)
  /-- Gives a user that is there another name and other roles. -/
  | update (u : User)
  | delete (email : String)
  | user (email : String)
  /-- All users, by email. -/
  | users
  /-- The users that hold a role, by email. -/
  | usersByRole (role : String)
  /-- The roles that some user holds, ascending. -/
  | liveRoles
  /-- The number of roles held, summed over the users. -/
  | memberCount
  /-- Gives up the store; from then on it refuses everything. -/
  | close
  deriving DecidableEq, Repr

/-- What a served call brings back. -/
inductive Answer where
  | done
  | user (u : User)
  | users (l : List User)
  | roles (l : List String)
  | count (n : Nat)
  deriving DecidableEq, Repr

end Roster
