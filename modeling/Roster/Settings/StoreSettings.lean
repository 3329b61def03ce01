import Roster.Settings.Environment
import Roster.Text.Lowercase
import Roster.Text.Quoted

/-!
# Settings of a store

Which store to open, by its URL, and how many connections and how much patience a database gets.
The scheme of the URL, whose letters may be of either case, selects the way users are kept.
-/

namespace Roster.Settings

/-- Settings of a store. Times are in seconds. -/
structure StoreSettings where
  url : String
  maxConnections : Nat
  minConnections : Nat
  connectTimeout : Nat
  idleTimeout : Nat
  maxLifetime : Nat
  acquireTimeout : Nat
  /-- Statements are logged by the database library too. -/
  statementLogging : Bool
  deriving DecidableEq, Repr

/-- The URL of a store that nobody has chosen. -/
def defaultUrl : String := "redb://./data/userroles.redb"

def defaultMaxConnections : Nat := 10

def defaultMinConnections : Nat := 1

def defaultConnectTimeout : Nat := 5

def defaultIdleTimeout : Nat := 600

def defaultMaxLifetime : Nat := 3600

def defaultAcquireTimeout : Nat := 30

/-- What holds for settings that are not given. -/
def StoreSettings.default : StoreSettings where
  url := defaultUrl
  maxConnections := defaultMaxConnections
  minConnections := defaultMinConnections
  connectTimeout := defaultConnectTimeout
  idleTimeout := defaultIdleTimeout
  maxLifetime := defaultMaxLifetime
  acquireTimeout := defaultAcquireTimeout
  statementLogging := false

/-- Where users are kept. -/
inductive StoreBackend where
  /-- In a file at a path. -/
  | embedded (path : String)
  /-- In a database at a URL. -/
  | relational (url : String)
  deriving DecidableEq, Repr

/-- What is wrong with settings. -/
inductive SettingsError where
  | emptyUrl
  | noPath (url : String)
  | unsupportedUrl (url : String)
  | noConnections
  | connectionBounds
  | zeroTimeout
  deriving DecidableEq, Repr

/-- The error in words. -/
def SettingsError.message : SettingsError → String
  | emptyUrl => "store.url is empty; set it in config.toml or via STORE_URL"
  | noPath url => "store.url " ++ Text.quoted url ++ " has no file path"
  | unsupportedUrl url =>
    "unsupported store.url " ++ Text.quoted url ++
      "; expected redb://<path>, postgres://..., or sqlite:..."
  | noConnections => "store.min_connections must be >= 1"
  | connectionBounds => "store.max_connections must be >= min_connections"
  | zeroTimeout => "store timeouts must be a positive number of seconds"

/-- The scheme of the embedded store. -/
def embeddedScheme : String := "redb://"

/-- The schemes of databases. -/
def relationalSchemes : List String := ["postgres://", "postgresql://", "sqlite:"]

/-- A text from its byte `n` on; none if that is not the start of a character or the end. -/
def textFrom? (s : String) (n : Nat) : Option String :=
  if n ≤ byteLength s then ofUtf8? ((utf8 s).drop n) else none

namespace StoreSettings

/-- The text begins with a scheme. -/
def hasScheme (lower : List Char) (scheme : String) : Bool := scheme.toList.isPrefixOf lower

/-- Where the URL says users are kept. -/
def backend? (s : StoreSettings) : Except SettingsError StoreBackend :=
  let lower := Text.lowerChars s.url
  if hasScheme lower embeddedScheme then
    match textFrom? s.url (byteLength embeddedScheme) with
    | none | some "" => .error (.noPath s.url)
    | some path => .ok (.embedded path)
  else if relationalSchemes.any (hasScheme lower) then .ok (.relational s.url)
  else .error (.unsupportedUrl s.url)

/-- The variables that stand in for a blank URL. -/
def urlVariables : List String := ["STORE_URL", "DATABASE_URL"]

/-- The settings with the URL, or what the environment has for a blank one, trimmed. -/
def normalized (s : StoreSettings) (env : Environment) : StoreSettings :=
  let url := if Text.isBlank s.url then (env.firstFilled? urlVariables).getD s.url else s.url
  { s with url := Text.trim url }

/-- The first thing that is wrong with the settings. -/
def validate (s : StoreSettings) : Except SettingsError Unit := do
  if s.url = "" then .error .emptyUrl
  let _ ← s.backend?
  if s.minConnections = 0 then .error .noConnections
  if s.maxConnections < s.minConnections then .error .connectionBounds
  if s.connectTimeout = 0 ∨ s.acquireTimeout = 0 then .error .zeroTimeout

/-- The most and the fewest connections that are kept. A file database gets one, because only one
connection can write to it. -/
def poolBounds (s : StoreSettings) : Nat × Nat :=
  if "sqlite:".toList.isPrefixOf (Text.asciiLowerChars (Text.trimStart s.url)) then (1, 1)
  else (s.maxConnections, min s.minConnections s.maxConnections)

end StoreSettings

end Roster.Settings
