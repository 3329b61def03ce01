/-!
# Sets of characters given by ranges

The tables of character classes list closed ranges of code points in ascending order.
-/

namespace Roster.Text

/-- Membership in a list of closed ranges of numbers. -/
def inRanges (table : List (Nat × Nat)) (n : Nat) : Bool :=
  table.any fun r => r.1 ≤ n && n ≤ r.2

end Roster.Text
