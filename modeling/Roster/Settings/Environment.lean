import Roster.Text.Blank

/-!
# Environment variables
-/

namespace Roster.Settings

/-- Variables and their values. The first value of a name counts. -/
abbrev Environment := List (String × String)

namespace Environment

/-- The value of a variable. -/
def get? (env : Environment) (name : String) : Option String := env.lookup name

/-- The environment with another variable; one that is there keeps its value. -/
def supply (env : Environment) (name value : String) : Environment :=
  if (env.get? name).isSome then env else env ++ [(name, value)]

/-- The first of the named variables whose value is not blank. -/
def firstFilled? (env : Environment) (names : List String) : Option String :=
  names.findSome? fun name => (env.get? name).filter fun v => !Text.isBlank v

end Environment

end Roster.Settings
