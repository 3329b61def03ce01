import Roster.Files.Tree
import Roster.Settings.StoreSettings
import Roster.Toml.Reader

/-!
# The configuration

A configuration has settings of the store and of the log. It is read from a TOML document, in
which everything may be left out: what is there replaces the default, field by field.
-/

namespace Roster.Settings

/-- The form of log lines. -/
inductive LogFormat where
  | compact
  | json
  deriving DecidableEq, Repr

namespace LogFormat

/-- The name of the format. -/
def name : LogFormat → String
  | compact => "compact"
  | json => "json"

/-- The format that holds if none is given. -/
def default : LogFormat := compact

/-- The format of a name. -/
def ofName? (s : String) : Option LogFormat := [compact, json].find? (·.name = s)

end LogFormat

/-- Settings of the log. -/
structure LogSettings where
  format : LogFormat
  /-- What is logged, unless the environment says it. -/
  filter : Option String
  deriving DecidableEq, Repr

/-- What holds for settings that are not given. -/
def LogSettings.default : LogSettings := ⟨.default, none⟩

/-- All settings. -/
structure Config where
  store : StoreSettings
  logging : LogSettings
  deriving DecidableEq, Repr

/-- The configuration if there is no document. -/
def Config.default : Config := ⟨.default, .default⟩

/-! ## Reading values -/

open Toml (Item)

/-- The fields of a record: named ones of a table, or a list in the order of the fields. A date is
a table without any known field. -/
def fieldsOf? (names : List String) : Item → Option (List (Option Item))
  | .inline _ es | .table _ es => some (names.map fun name => es.lookup name)
  | .list l => some (names.zipIdx.map fun (_, i) => l[i]?)
  | .tables l => some (names.zipIdx.map fun (_, i) => l[i]?.map (.table .header))
  | .moment => some (names.map fun _ => none)
  | _ => none

/-- The value of a field that is there, or its default. -/
def valueOr? {α : Type} (read? : Item → Option α) (default : α) : Option Item → Option α
  | none => some default
  | some item => read? item

/-- A text. -/
def readText? : Item → Option String
  | .text s => some s
  | _ => none

/-- A truth value. -/
def readBool? : Item → Option Bool
  | .boolean b => some b
  | _ => none

/-- A whole number below a limit. -/
def readNat? (limit : Nat) : Item → Option Nat
  | .integer n => if 0 ≤ n ∧ n < limit then some n.toNat else none
  | _ => none

/-- A bound on connections. -/
def readBound? : Item → Option Nat := readNat? (Nat.pow 2 32)

/-- A number of seconds. -/
def readSeconds? : Item → Option Nat := readNat? (Nat.pow 2 64)

/-- An item without content. -/
def isBare : Item → Bool
  | .inline _ es | .table _ es => es.isEmpty
  | .list l => l.isEmpty
  | .tables l => l.isEmpty
  | _ => false

/-- A format, by its name or as a table in which that name has no content. -/
def readFormat? : Item → Option LogFormat
  | .text s => LogFormat.ofName? s
  | .inline _ [(name, item)] | .table _ [(name, item)] =>
    if isBare item then LogFormat.ofName? name else none
  | _ => none

/-- A text, which need not be there. -/
def readFilter? (item : Item) : Option (Option String) := (readText? item).map some

/-- The names of the store's settings, in their order. -/
def storeFields : List String :=
  ["url", "max_connections", "min_connections", "connect_timeout_secs", "idle_timeout_secs",
   "max_lifetime_secs", "acquire_timeout_secs", "sqlx_logging"]

/-- Settings of the store. A table that is there has a default for each of its fields. -/
def readStore? (item : Item) : Option StoreSettings := do
  match ← fieldsOf? storeFields item with
  | [url, maxConnections, minConnections, connectTimeout, idleTimeout, maxLifetime, acquireTimeout,
      statementLogging] =>
    return {
      url := ← valueOr? readText? defaultUrl url
      maxConnections := ← valueOr? readBound? defaultMaxConnections maxConnections
      minConnections := ← valueOr? readBound? defaultMinConnections minConnections
      connectTimeout := ← valueOr? readSeconds? defaultConnectTimeout connectTimeout
      idleTimeout := ← valueOr? readSeconds? defaultIdleTimeout idleTimeout
      maxLifetime := ← valueOr? readSeconds? defaultMaxLifetime maxLifetime
      acquireTimeout := ← valueOr? readSeconds? defaultAcquireTimeout acquireTimeout
      statementLogging := ← valueOr? readBool? false statementLogging }
  | _ => none

/-- The names of the log's settings, in their order. -/
def logFields : List String := ["format", "filter"]

/-- Settings of the log. -/
def readLogging? (item : Item) : Option LogSettings := do
  match ← fieldsOf? logFields item with
  | [format, filter] =>
    return ⟨← valueOr? readFormat? .default format, ← valueOr? readFilter? none filter⟩
  | _ => none

namespace Config

/-- The configuration in the entries of a document. A table that is missing has a default as a whole. -/
def ofEntries? (es : Toml.Entries) : Option Config := do
  return ⟨← valueOr? readStore? .default (es.find? "store"),
    ← valueOr? readLogging? .default (es.find? "logging")⟩

/-- The configuration in a document. -/
def parse? (document : String) : Option Config := (Toml.read? document).bind ofEntries?

end Config

/-! ## Loading -/

/-- Why no configuration could be loaded. -/
inductive LoadError where
  | file (e : Files.OsError)
  /-- The document breaks a rule of TOML, or a value is of another type. -/
  | document
  | settings (e : SettingsError)
  deriving DecidableEq, Repr

/-- The error in words. -/
def LoadError.message : LoadError → String
  | file e => e.message
  | document => "TOML parse error"
  | settings e => e.message

namespace Config

/-- The configuration in a file. -/
def loadFile (t : Files.Tree) (path : String) : Except LoadError Config :=
  match t.readText path with
  | .error e => .error (.file e)
  | .ok document =>
    match parse? document with
    | none => .error .document
    | some c => .ok c

/-- The path of the configuration file. -/
def path (env : Environment) : String := (env.get? "CONFIG_PATH").getD "config.toml"

/-- The configuration in the file that the environment names, or the default one if there is no
such file. -/
def loadDefault (t : Files.Tree) (env : Environment) : Except LoadError Config :=
  if t.existsAt (path env) then loadFile t (path env) else .ok .default

/-- The configuration with its URL taken from the environment where it is blank, if nothing is
wrong with it. -/
def normalizeAndValidate (c : Config) (env : Environment) : Except LoadError Config :=
  let c := { c with store := c.store.normalized env }
  match c.store.validate with
  | .ok () => .ok c
  | .error e => .error (.settings e)

/-- The configuration to work with. -/
def load (t : Files.Tree) (env : Environment) : Except LoadError Config := do
  (← loadDefault t env).normalizeAndValidate env

end Config

end Roster.Settings
