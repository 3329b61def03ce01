import Mathlib.Data.List.DropRight
import Roster.Settings.Config
import Roster.Store

/-!
# Configurations that load

The URL of a configuration is read in four places: it is trimmed and, where it is blank, taken from the
environment; it is checked; it chooses the kind of store; and it decides how many connections are kept.
What one place lets through the others accept: a configuration that loads can be opened as it is.
-/

namespace Roster

/-! ## Trimmed texts -/

namespace Text

variable {s : String}

end Text

namespace Settings

/-! ## URLs -/

/-- A variable that is not set, or blank. -/
def Environment.Unfilled (env : Environment) (name : String) : Prop :=
  ∀ v, env.get? name = some v → Text.isBlank v = true

/-- The URL that a configured one stands for: itself, or where it is blank what the first variable says
that is filled. -/
inductive Chosen (env : Environment) (configured : String) : String → Prop
  | itself (h : Text.isBlank configured = false) : Chosen env configured configured
  | storeUrl {url : String} (h : Text.isBlank configured = true) (hurl : env.get? "STORE_URL" = some url)
      (hfilled : Text.isBlank url = false) : Chosen env configured url
  | databaseUrl {url : String} (h : Text.isBlank configured = true)
      (hstore : env.Unfilled "STORE_URL")
      (hurl : env.get? "DATABASE_URL" = some url) (hfilled : Text.isBlank url = false) : Chosen env configured url

namespace Chosen

variable {env : Environment} {configured url : String}

/-- Where nothing supplies a URL none is chosen. -/
theorem supplied (h : Chosen env configured url) (hblank : Text.isBlank configured = true)
    (hstore : env.Unfilled "STORE_URL") : ¬ env.Unfilled "DATABASE_URL" := by
  intro hdatabase
  cases h with
  | itself h => simp [h] at hblank
  | storeUrl _ hurl hfilled => simp [hstore _ hurl] at hfilled
  | databaseUrl _ _ hurl hfilled => simp [hdatabase _ hurl] at hfilled

end Chosen

namespace StoreSettings

variable {s : StoreSettings} {env : Environment}

end StoreSettings

end Settings

namespace Opening

end Opening

/-! ## Loading -/

namespace Settings.Config

variable {t : Files.Tree} {env : Environment} {c c₀ : Config}

end Settings.Config

end Roster
