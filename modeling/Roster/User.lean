import Roster.ItemSet
import Roster.StoreError
import Roster.Text.Blank

/-!
# Users

A user is an email, which is the key, a full name, and the roles that the user holds. Before a
user is stored it is validated, so that every backend can hold it, and normalized, so that equal
role sets are stored alike.
-/

namespace Roster

/-- A user and the roles it holds. -/
structure User where
  email : String
  fullName : String
  roles : List String
  deriving DecidableEq, Repr

/-- The longest email, in bytes. -/
def emailLimit : Nat := 320

/-- The longest full name, in bytes. -/
def fullNameLimit : Nat := 256

/-- The longest role name, in bytes. -/
def roleLimit : Nat := 64

/-- Why a user cannot be stored. -/
inductive Unfit where
  | blankEmail
  | nulInEmail
  | longEmail
  | longFullName
  | blankRole
  | nulInRole (role : String)
  | longRole
  deriving DecidableEq, Repr

/-- The reason in words. -/
def Unfit.reason : Unfit → String
  | blankEmail => "email is required"
  | nulInEmail => "email contains NUL"
  | longEmail => s!"email longer than {emailLimit} bytes"
  | longFullName => s!"full name longer than {fullNameLimit} bytes"
  | blankRole => "role name must not be empty"
  | nulInRole role => "role name " ++ Text.quoted role ++ " contains NUL"
  | longRole => s!"role name longer than {roleLimit} bytes"

/-- The error that a store answers. -/
def Unfit.toError (u : Unfit) : StoreError := .validation u.reason

/-- The text contains the character NUL. -/
def hasNul (s : String) : Bool := s.toList.any fun c => c.toNat == 0

/-- What makes an email unfit, the first of these that applies. -/
def unfitEmail? (email : String) : Option Unfit :=
  if Text.isBlank email then some .blankEmail
  else if hasNul email then some .nulInEmail
  else if byteLength email > emailLimit then some .longEmail
  else none

/-- What makes a role name unfit, the first of these that applies. -/
def unfitRole? (role : String) : Option Unfit :=
  if Text.isBlank role then some .blankRole
  else if hasNul role then some (.nulInRole role)
  else if byteLength role > roleLimit then some .longRole
  else none

/-- A list with neighbouring repetitions collapsed. -/
def collapse {α : Type} [DecidableEq α] : List α → List α
  | x :: y :: l => if x = y then collapse (y :: l) else x :: collapse (y :: l)
  | l => l

namespace User

/-- What makes a user unfit: first the email, then the length of the name, then the roles in turn. -/
def unfit? (u : User) : Option Unfit :=
  match unfitEmail? u.email with
  | some reason => some reason
  | none =>
    if byteLength u.fullName > fullNameLimit then some .longFullName
    else u.roles.findSome? unfitRole?

/-- The user with its roles in ascending order, each once. -/
def normalized (u : User) : User := { u with roles := collapse (sortTexts u.roles) }

/-- The roles as a set. -/
def roleSet (u : User) : ItemSet String := ItemSet.ofList u.roles

end User

/-- Users in ascending order of their emails; users with the same email keep their places. -/
def sortUsers (l : List User) : List User := l.mergeSort fun a b => textLE a.email b.email

end Roster
