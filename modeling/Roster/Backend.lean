/-!
# The two ways to keep a roster

A store is either embedded, one file of ordered keys, or relational, tables in a database.
-/

namespace Roster

/-- How a store keeps its users. -/
inductive Backend where
  | embedded
  | relational
  deriving DecidableEq, Repr

/-- The name by which callers tell the two apart. -/
def Backend.name : Backend → String
  | .embedded => "embedded"
  | .relational => "relational"

end Roster
