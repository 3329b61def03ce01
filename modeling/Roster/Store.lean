import Roster.Embedded.Store
import Roster.Relational.Connection
import Roster.Relational.Operations

/-!
# Stores

A store of either kind, opened as the settings say. An open store has a home, the place that holds
its content when it is closed.
-/

namespace Roster

open Files Settings

/-- A store of either kind. -/
inductive Store where
  | embedded (s : Embedded.Store) (home : Place)
  | relational (s : Relational.Store) (home : Relational.Home)

namespace Store

/-- The way the store keeps its users. -/
def backend : Store → Backend
  | embedded .. => .embedded
  | relational .. => .relational

/-- Serves a request. -/
def perform (s : Store) (r : Request) : Script.Outcome Store StoreError Answer :=
  match s with
  | embedded s home =>
    let o := s.perform r
    ⟨o.answer, embedded o.state home, o.events⟩
  | relational s home =>
    let o := s.perform r
    ⟨o.answer, relational o.state home, o.events⟩

/-- Serves a request whose caller goes away at the first moment it has to wait. -/
def abandon (s : Store) (r : Request) : Option (Except StoreError Answer) × Store × List Log.Event :=
  match s with
  | embedded s home =>
    let (answer, s, events) := s.abandon r
    (answer, embedded s home, events)
  | relational s home =>
    let (answer, s, events) := s.abandon r
    (answer, relational s home, events)

/-- The file in use, if there is one. -/
def inUse : Store → List Place
  | embedded s home => if s.shared.isOpen then [home] else []
  | relational .. => []

/-- The tree with the content of the store in its home. -/
def save (s : Store) (t : Tree) : Tree :=
  match s with
  | embedded s home => t.put home (.file (.embedded (.ofTables s.shared.tables)))
  | relational s (.file home) => t.put home (.file (.relational s.shared.database))
  | relational _ .memory => t

end Store

/-- What opening a store leaves behind. -/
structure Opening where
  result : Except StoreError Store
  tree : Tree
  events : List Log.Event

namespace Opening

/-- Opens the file of an embedded store, and makes it and its directory if they are missing. A file
in use cannot be opened again. -/
def embedded (path : String) (inUse : List Place) (t : Tree) : Opening :=
  let prepared := ensureParentDir t path
  let refuse (operation message : String) : Opening :=
    ⟨.error (.storage operation message), prepared.tree, prepared.events⟩
  match prepared.result with
  | .error message => refuse "open" message
  | .ok () =>
    match prepared.tree.fileToCreate path with
    | .error e => refuse "open" e.message
    | .ok home =>
      let image : Option Embedded.Image :=
        match prepared.tree.node? home with
        | none | some (.file (.bytes [])) => some .new
        | some (.file (.embedded image)) => some image
        | _ => none
      if inUse.contains home then refuse "open" "Database already open. Cannot acquire lock."
      else
        match image with
        | none => refuse "open" "invalid data"
        | some image =>
          match image.tables? with
          | none => refuse "init_tables" "table is of another type"
          | some tables =>
            let s := Store.embedded ⟨path, ⟨true, tables⟩⟩ home
            ⟨.ok s, s.save prepared.tree, prepared.events ++ [.embeddedOpened path]⟩

/-- Connects a relational store. -/
def relational (settings : StoreSettings) (t : Tree) : Opening :=
  let c := Relational.connect settings t
  match c.result with
  | .error e => ⟨.error (.storage "connect" e.message), c.tree, c.events⟩
  | .ok (db, home, readOnly) => ⟨.ok (.relational ⟨⟨true, readOnly, db⟩⟩ home), c.tree, c.events⟩

/-- Opens the store of the settings. -/
def ofSettings (settings : StoreSettings) (inUse : List Place) (t : Tree) : Opening :=
  match settings.backend? with
  | .error e => ⟨.error (.validation e.message), t, []⟩
  | .ok (.embedded path) =>
    let o := embedded path inUse t
    { o with events := .openingEmbedded path :: o.events }
  | .ok (.relational _) =>
    let o := relational settings t
    { o with events := .openingRelational :: o.events }

end Opening

end Roster
