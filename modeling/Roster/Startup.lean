import Roster.Log.Filter
import Roster.Log.Line
import Roster.Settings.Config
import Roster.Settings.EnvFile
import Roster.Store

/-!
# The start-up program

It loads the configuration, opens the store, which creates what is missing, reports what is in it,
and closes it. Each stage is logged.
-/

namespace Roster.Startup

open Files Settings Log

/-- What a run leaves behind. -/
structure Run where
  /-- The run was a success. -/
  succeeded : Bool
  tree : Tree
  format : LogFormat
  /-- What is shown of what was reported. -/
  entries : List Entry

/-- The file that supplies variables. -/
def envFile : String := ".env"

/-- The environment with the variables of the environment file. -/
def environment (t : Tree) (env : Environment) : Environment :=
  match t.read envFile with
  | .ok b => EnvFile.load env b
  | .error _ => env

/-- What opening, looking at and closing the store leaves behind. -/
structure Visit where
  result : Except StoreError Unit
  tree : Tree
  events : List Event

/-- Looks at an open store and closes it. -/
def look (s : Store) (t : Tree) : Visit :=
  let users := s.perform .users
  match users.answer with
  | .error e => ⟨.error e, t, users.events⟩
  | .ok users' =>
    let roles := users.state.perform .liveRoles
    match roles.answer with
    | .error e => ⟨.error e, t, users.events ++ roles.events⟩
    | .ok roles' =>
      let (n, live) : Nat × List String := match users', roles' with
        | .users us, .roles rs => (us.length, rs)
        | _, _ => (0, [])
      let closed := roles.state.perform .close
      let events := users.events ++ roles.events ++
        .ready s.backend n live.length (Text.quotedList live) :: closed.events
      ⟨closed.answer.map fun _ => (), closed.state.save t, events⟩

/-- Opens the store of the settings, looks at it and closes it. -/
def visit (settings : StoreSettings) (t : Tree) : Visit :=
  let o := Opening.ofSettings settings [] t
  match o.result with
  | .error e => ⟨.error e, o.tree, o.events⟩
  | .ok s =>
    let v := look s o.tree
    { v with events := o.events ++ v.events }

/-- Runs the program under a name for the run. -/
def run (name : String) (t : Tree) (env : Environment) : Run :=
  let env := environment t env
  let named := env.get? "RUST_LOG"
  let show_ (fallback : Option String) (events : List Event) : List Entry :=
    (events.map Event.entry).filter (Filter.select named fallback).shows
  match Config.load t env with
  | .error e => ⟨false, t, .compact, show_ none [.configInvalid e.message]⟩
  | .ok c =>
    let v := visit c.store t
    let last : Event := match v.result with
      | .ok () => .stopped name
      | .error e => .runFailed name e.message
    ⟨v.result.isOk, v.tree, c.logging.format,
      show_ c.logging.filter ([.loggerReady, .starting name] ++ v.events ++ [last])⟩

end Roster.Startup
