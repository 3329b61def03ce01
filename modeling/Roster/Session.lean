import Roster.Store

/-!
# Sessions

A session works with the store of one URL over time: it serves requests, closes the store and opens
it again, and lets the content of the closed store be looked at and changed.
-/

namespace Roster

open Files Settings

/-- Work with the store of some settings. -/
structure Session where
  settings : StoreSettings
  tree : Tree
  /-- The store, if it could be opened the last time. -/
  store : Option Store

/-- What a step of a session leaves behind. -/
structure Session.Outcome (α : Type) where
  answer : α
  session : Session
  events : List Log.Event

namespace Session

/-- Opens the store. -/
def start (settings : StoreSettings) (tree : Tree) : Outcome (Except StoreError Unit) :=
  let o := Opening.ofSettings settings [] tree
  match o.result with
  | .error e => ⟨.error e, ⟨settings, o.tree, none⟩, o.events⟩
  | .ok s => ⟨.ok (), ⟨settings, o.tree, some s⟩, o.events⟩

/-- The tree once the store has been closed, and gone. -/
def settled (s : Session) : Tree :=
  match s.store with
  | none => s.tree
  | some store => store.save s.tree

/-- Closes the store, if it is open, and opens it again. -/
def reopen (s : Session) : Outcome (Except StoreError Unit) := start s.settings s.settled

/-- Serves a request; no answer without a store. -/
def perform (s : Session) (r : Request) : Outcome (Option (Except StoreError Answer)) :=
  match s.store with
  | none => ⟨none, s, []⟩
  | some store =>
    let o := store.perform r
    ⟨some o.answer, { s with store := some o.state }, o.events⟩

/-- Serves requests one after another. -/
def performAll (s : Session) : List Request → Outcome (List (Option (Except StoreError Answer)))
  | [] => ⟨[], s, []⟩
  | r :: rs =>
    let o := s.perform r
    let rest := o.session.performAll rs
    ⟨o.answer :: rest.answer, rest.session, o.events ++ rest.events⟩

/-- The answer to a request whose caller may have gone away. -/
inductive Reply where
  | noStore
  /-- The caller went away before there was an answer. -/
  | abandoned
  | answered (a : Except StoreError Answer)

/-- Serves a request whose caller goes away at the first moment it has to wait. -/
def abandon (s : Session) (r : Request) : Outcome Reply :=
  match s.store with
  | none => ⟨.noStore, s, []⟩
  | some store =>
    let (answer, store, events) := store.abandon r
    ⟨answer.elim .abandoned .answered, { s with store := some store }, events⟩

/-- The place of the store's file, if it has one. -/
def home? (s : Session) : Option Place :=
  match s.settings.backend? with
  | .ok (.embedded path) => (s.tree.locate path).toOption
  | .ok (.relational url) => (Relational.location? url).bind fun l => l.path.map Relational.placeOf
  | .error _ => none

/-- The content of the store's file. -/
def content? (s : Session) : Option Content :=
  match s.home?.bind s.settled.node? with
  | some (.file c) => some c
  | _ => none

/-- A change made to the store's file while the store is closed. -/
inductive Edit where
  | embedded (edits : List Embedded.Edit)
  | relational (edits : List Relational.Database.Edit)

/-- Closes the store, changes its file and opens it again. The answer is false when a change is
refused: the embedded file is then left alone, the relational one keeps the changes before. -/
def edit (s : Session) (e : Edit) : Outcome (Except StoreError Bool) :=
  let reopenWith (c : Option Content) (made : Bool) : Outcome (Except StoreError Bool) :=
    let tree := match c, s.home? with
      | some c, some p => s.settled.put p (.file c)
      | _, _ => s.settled
    let o := start s.settings tree
    ⟨o.answer.map fun () => made, o.session, o.events⟩
  match e, s.content? with
  | .embedded edits, some (.embedded image) =>
    match image.edit? edits with
    | some image => reopenWith (some (.embedded image)) true
    | none => reopenWith none false
  | .relational edits, some (.relational db) =>
    let (db, made) := db.edit edits
    reopenWith (some (.relational db)) made
  | _, _ => reopenWith none false

end Session

end Roster
