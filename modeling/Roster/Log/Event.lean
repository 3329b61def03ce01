import Roster.Backend

/-!
# Log events

What the library reports while it works. An event is one of a fixed list; its entry in the log is
a severity, the component that speaks, a sentence, and named values.
-/

namespace Roster.Log

/-- How serious an event is, most serious first. -/
inductive Severity where
  | error
  | warn
  | info
  | debug
  | trace
  deriving DecidableEq, Repr

namespace Severity

/-- The spelling in log lines. -/
def label : Severity → String
  | error => "ERROR"
  | warn => "WARN"
  | info => "INFO"
  | debug => "DEBUG"
  | trace => "TRACE"

/-- Higher numbers are more talkative. -/
def rank : Severity → Nat
  | error => 1
  | warn => 2
  | info => 3
  | debug => 4
  | trace => 5

end Severity

/-- A value attached to an event. -/
inductive Value where
  /-- A text, quoted in plain log lines. -/
  | text (s : String)
  /-- A text that is already in the form in which it is shown. -/
  | shown (s : String)
  /-- A number. -/
  | count (n : Nat)
  deriving DecidableEq, Repr

/-- One line of the log. -/
structure Entry where
  severity : Severity
  /-- The component that speaks. -/
  target : String
  message : String
  /-- Named values, in the order in which they are shown. -/
  values : List (String × Value)
  deriving DecidableEq, Repr

/-- The name under which the start-up program reports. -/
def programName : String := "store-init"

/-- The release that the start-up program announces. -/
def programVersion : String := "0.1.0"

/-- Everything that is ever reported. -/
inductive Event where
  /-- Role sets differ; so many roles go and so many come. -/
  | applyingDiff (remove add : Nat)
  /-- An update left the role index of the embedded store alone. -/
  | indexUntouched (email : String)
  /-- An update left the role rows of the relational store alone. -/
  | rowsUntouched (email : String)
  /-- So many role rows were deleted for a user. -/
  | rowsRemoved (email : String) (removed : Nat)
  /-- An index entry that should have been removed was not there. -/
  | entryMissing (email role : String)
  /-- A key in the range of a role does not split into role and email. -/
  | undecodableKey (role : String)
  /-- An index entry names a user without a record. -/
  | danglingEntry (role email : String)
  /-- The caller went away, so its transaction was not committed. -/
  | callerGone (operation : String)
  /-- Giving up an abandoned transaction failed in turn. -/
  | abortFailed (operation error : String)
  | userCreated (backend : Backend) (email : String) (roles : Nat)
  | userUpdated (backend : Backend) (email : String) (roles : Nat)
  | userDeleted (backend : Backend) (email : String)
  | openingEmbedded (path : String)
  | openingRelational
  | embeddedOpened (path : String)
  | embeddedClosed (path : String)
  | relationalClosed
  /-- A statement of the schema is about to run. -/
  | ensureSchema (sql : String)
  | relationalConnected (maxConnections : Nat)
  | creatingDirectory (path : String)
  /-- The start-up program's own reports. -/
  | loggerReady
  | starting (run : String)
  | ready (backend : Backend) (users roles : Nat) (liveRoles : String)
  | stopped (run : String)
  | configInvalid (error : String)
  | runFailed (run error : String)
  deriving DecidableEq, Repr

/-- The component that implements a way of keeping users. -/
def storeTarget : Backend → String
  | .embedded => "service::store::embedded"
  | .relational => "service::store::relational"

/-- The start-up program names itself and the stage it has reached. -/
def stageValues (name : String) : List (String × Value) :=
  [("service", .text programName), ("event", .text name)]

/-- How an event appears in the log. -/
def Event.entry : Event → Entry
  | applyingDiff remove add =>
    ⟨.debug, "service::roles", "applying role diff", [("remove", .count remove), ("add", .count add)]⟩
  | indexUntouched email =>
    ⟨.debug, storeTarget .embedded, "roles unchanged; index untouched", [("email", .shown email)]⟩
  | rowsUntouched email =>
    ⟨.debug, storeTarget .relational, "roles unchanged; role rows untouched",
      [("email", .shown email)]⟩
  | rowsRemoved email removed =>
    ⟨.debug, storeTarget .relational, "role rows removed",
      [("email", .shown email), ("removed", .count removed)]⟩
  | entryMissing email role =>
    ⟨.warn, storeTarget .embedded, "role index entry already missing",
      [("email", .shown email), ("role", .shown role)]⟩
  | undecodableKey role =>
    ⟨.warn, storeTarget .embedded, "undecodable role index key; skipping",
      [("role", .shown role)]⟩
  | danglingEntry role email =>
    ⟨.warn, storeTarget .embedded, "role index points at a missing user; skipping",
      [("role", .shown role), ("email", .shown email)]⟩
  | callerGone operation =>
    ⟨.warn, storeTarget .embedded, "caller cancelled; write transaction aborted",
      [("op", .text operation)]⟩
  | abortFailed operation error =>
    ⟨.error, storeTarget .embedded, "aborting cancelled write transaction failed",
      [("op", .text operation), ("error", .shown error)]⟩
  | userCreated backend email roles =>
    ⟨.info, storeTarget backend, "user created", [("email", .shown email), ("roles", .count roles)]⟩
  | userUpdated backend email roles =>
    ⟨.info, storeTarget backend, "user updated", [("email", .shown email), ("roles", .count roles)]⟩
  | userDeleted backend email =>
    ⟨.info, storeTarget backend, "user deleted", [("email", .shown email)]⟩
  | openingEmbedded path =>
    ⟨.info, "service::factory", "opening store",
      [("backend", .text Backend.embedded.name), ("path", .shown path)]⟩
  | openingRelational =>
    ⟨.info, "service::factory", "opening store", [("backend", .text Backend.relational.name)]⟩
  | embeddedOpened path =>
    ⟨.info, storeTarget .embedded, "embedded store opened", [("path", .shown path)]⟩
  | embeddedClosed path =>
    ⟨.info, storeTarget .embedded, "embedded store closed", [("path", .shown path)]⟩
  | relationalClosed => ⟨.info, storeTarget .relational, "relational store closed", []⟩
  | ensureSchema sql => ⟨.debug, "models::db", "ensure schema", [("sql", .shown sql)]⟩
  | relationalConnected maxConnections =>
    ⟨.info, "models::db", "relational store connected",
      [("backend", .shown "Sqlite"), ("max_connections", .count maxConnections)]⟩
  | creatingDirectory path =>
    ⟨.debug, "common::env", "creating data directory", [("dir", .shown path)]⟩
  | loggerReady =>
    ⟨.info, "store_init", "tracing subscriber initialized", stageValues "logger_init"⟩
  | starting run =>
    ⟨.info, "store_init", "opening store",
      stageValues "start" ++ [("run_id", .shown run), ("version", .text programVersion)]⟩
  | ready backend users roles liveRoles =>
    ⟨.info, "store_init", "store opened and schema in place",
      stageValues "ready" ++ [("backend", .text backend.name), ("users", .count users),
        ("roles", .count roles), ("live_roles", .shown liveRoles)]⟩
  | stopped run =>
    ⟨.info, "store_init", "store closed", stageValues "stop" ++ [("run_id", .shown run)]⟩
  | configInvalid error =>
    ⟨.error, "store_init", "failed to load configuration",
      stageValues "config_invalid" ++ [("error", .shown error)]⟩
  | runFailed run error =>
    ⟨.error, "store_init", "store initialisation failed",
      stageValues "run_failed" ++ [("run_id", .shown run), ("error", .shown error)]⟩

/-- Computations that can report events. -/
class Reports (m : Type → Type u) where
  /-- Reports an event. -/
  report : Event → m Unit

end Roster.Log
