import Roster.KeyOrder

/-!
# Keys of the role index

The index has one key for each role that a user holds: the role, a separator, and the email. The
separator is the byte zero, which no stored role or email contains, so a key splits at its first
zero, and the members of a role are exactly the keys of one range.
-/

namespace Roster.Embedded

/-- The byte between role and email. -/
def separator : UInt8 := 0

/-- The key that records that `email` holds `role`. -/
def memberKey (role email : String) : Bytes := utf8 role ++ separator :: utf8 email

/-- Role and email of a key, cut at its first separator, if both are texts. -/
def splitKey? (key : Bytes) : Option (String × String) :=
  match key.dropWhile (· != separator) with
  | [] => none
  | _ :: email => do
    let role ← ofUtf8? (key.takeWhile (· != separator))
    let email ← ofUtf8? email
    return (role, email)

/-- The bounds of the keys of a role: from the first on, before the second. -/
def roleRange (role : String) : Bytes × Bytes :=
  (utf8 role ++ [separator], utf8 role ++ [separator + 1])

end Roster.Embedded
