import Roster.Proofs.Embedded.Failures
import Roster.Proofs.Embedded.Refinement
import Roster.Proofs.Relational.Failures
import Roster.Proofs.Relational.Refinement
import Roster.Session

/-!
# Two backends, one roll

A store of either kind shows a roll and goes on showing what the roll becomes on its medium. What a caller
gets to see is therefore the same for both, short of what the medium refuses. And whatever either of them
holds, and whatever fails below it, a request that is answered by an error has changed nothing.
-/

namespace Roster

open Files Settings

/-- A request that is answered by an error leaves the content of either store as it was: whatever the
content, whoever calls, whichever calls of the engine fail, and in whatever state these leave the
caller's draft. -/
theorem content_of_error :
    (∀ (path : String) (plan : Nat → Option (String × (Embedded.Caller → Embedded.Caller)))
        (shared : Embedded.Shared) (caller : Embedded.Caller) (q : Request) (e : StoreError),
      let o := (Embedded.Operation.ofRequest path q).run (Script.faulty Embedded.serve plan) (0, shared, caller)
      o.answer = .error e → o.state.2.1.tables = shared.tables) ∧
    ∀ (plan : Nat → Option (Relational.DbFault × (Relational.Draft → Relational.Draft)))
        (shared : Relational.Shared) (q : Request) (e : StoreError),
      let o := (Relational.Operation.ofRequest q).run (Script.faulty Relational.serve plan) (0, shared, none)
      o.answer = .error e → o.state.2.1.database = shared.database :=
  ⟨fun path plan shared caller _ _ => Embedded.tables_of_error path plan shared caller,
    fun plan shared _ _ => Relational.database_of_error plan shared⟩

/-- A record that cannot be read keeps its user from being deleted, and an update that cannot read the
roles before loses the name that it wrote. -/
theorem content_of_unreadable_record :
    let tables : Embedded.Tables := ⟨KeyTable.empty.insert "ann" [0], KeyTable.empty.insert [1, 2] [3]⟩
    let database := { Relational.Database.new with users := KeyTable.empty.insert "ann" none }
    ((Embedded.Operation.ofRequest "f" (.delete "ann")).run
      (Script.faulty Embedded.serve fun _ => none) (0, ⟨true, tables⟩, .waiting)).state.2.1.tables = tables ∧
    ((Relational.Operation.ofRequest (.update ⟨"ann", "Ann", ["a"]⟩)).run
      (Script.faulty Relational.serve fun n => if n = 3 then some (.other "disk full", id) else none)
      (0, ⟨true, false, database⟩, none)).state.2.1.database = database :=
  ⟨content_of_error.1 "f" _ ⟨true, _⟩ .waiting (.delete "ann")
      (.serialization "ann" "expected value at line 1 column 1") rfl,
    content_of_error.2 _ ⟨true, false, _⟩ (.update ⟨"ann", "Ann", ["a"]⟩) (.storage "update_user" "disk full") rfl⟩

namespace Store

/-- The content of the store shows a roll. -/
def Shows (s : Store) (r : Roll) : Prop :=
  match s with
  | embedded s _ => Embedded.Shows s.shared r
  | relational s _ => Relational.Shows s.shared r

/-- What the store keeps its roll in. -/
def medium : Store → Medium
  | embedded .. => .embedded
  | relational s _ => .relational s.shared.readOnly

theorem backend_eq (s : Store) : s.backend = s.medium.backend := by cases s <;> rfl

theorem Shows.perform {s : Store} {r : Roll} (h : s.Shows r) (q : Request) :
    (s.perform q).answer = (r.serveOn s.medium q).1 ∧ (s.perform q).state.Shows (r.serveOn s.medium q).2 ∧
      (s.perform q).state.medium = s.medium := by
  cases s with
  | embedded s home =>
    rw [medium, Roll.serveOn_embedded]
    rcases (Embedded.Shows.serves h q s.path .none false false).effect with ⟨hanswer, hshows⟩ | ⟨hgone, -⟩
    · exact ⟨hanswer, hshows, rfl⟩
    · cases hgone
  | relational s home =>
    obtain ⟨hanswer, hshows, hreadOnly⟩ := Relational.Shows.serves h q
    exact ⟨hanswer, hshows, congrArg Medium.relational hreadOnly⟩

/-- What the store holds. -/
def content : Store → Content
  | embedded s _ => .embedded (.ofTables s.shared.tables)
  | relational s _ => .relational s.shared.database

/-- There is one way for each kind of store to hold what a roll says, be it open or closed. -/
theorem Shows.content_eq {s s' : Store} {r r' : Roll} (h : s.Shows r) (h' : s'.Shows r')
    (hentries : r.entries = r'.entries) (hbackend : s.backend = s'.backend) : s.content = s'.content := by
  cases s with
  | embedded s home =>
    cases s' with
    | embedded s' home' =>
      exact congrArg (fun t => Content.embedded (.ofTables t)) (h.keeps.unique (hentries ▸ h'.keeps))
    | relational => cases hbackend
  | relational s home =>
    cases s' with
    | embedded => cases hbackend
    | relational s' home' => exact congrArg Content.relational (h.keeps.unique (hentries ▸ h'.keeps))

theorem shows_new_embedded (path : String) (home : Place) :
    (embedded ⟨path, ⟨true, .empty⟩⟩ home).Shows .new :=
  ⟨rfl, Embedded.keeps_empty, Roll.fit_new⟩

theorem shows_new_relational (readOnly : Bool) (home : Relational.Home) :
    (relational ⟨⟨true, readOnly, .new⟩⟩ home).Shows .new :=
  ⟨rfl, Relational.keeps_new⟩

end Store

namespace Session

theorem perform_eq {s : Session} {store : Store} (hs : s.store = some store) (q : Request) :
    s.perform q = ⟨some (store.perform q).answer, { s with store := some (store.perform q).state },
      (store.perform q).events⟩ := by
  rw [perform, hs]

theorem performAll_answer {s : Session} {store : Store} {r : Roll} (hs : s.store = some store)
    (h : store.Shows r) (qs : List Request) : (s.performAll qs).answer = (r.answersOn store.medium qs).map some := by
  induction qs generalizing s store r with
  | nil => rfl
  | cons q qs ih =>
    obtain ⟨hanswer, hshows, hmedium⟩ := h.perform q
    rw [performAll, Roll.answersOn, List.map_cons, ← hanswer, perform_eq hs]
    refine congrArg (_ :: ·) ((ih rfl hshows).trans ?_)
    rw [hmedium]

/-- New stores answer every sequence of requests as the roll does, answer by answer; on a database it does
so with the refusals of its medium. Where the database may be written and nobody is given more roles than one
statement can add, there are none, and the two agree. -/
theorem answers_of_new {embedded relational : Session} {path : String} {home : Place}
    {databaseHome : Relational.Home} {readOnly : Bool}
    (he : embedded.store = some (.embedded ⟨path, ⟨true, .empty⟩⟩ home))
    (hr : relational.store = some (.relational ⟨⟨true, readOnly, .new⟩⟩ databaseHome)) (qs : List Request) :
    (embedded.performAll qs).answer = (Roll.new.answers qs).map some ∧
      (relational.performAll qs).answer = (Roll.new.answersOn (.relational readOnly) qs).map some ∧
      (readOnly = false → (∀ q ∈ qs, ∀ u ∈ q.stored?, Medium.Moderate u.normalized.roles) →
        (relational.performAll qs).answer = (Roll.new.answers qs).map some) := by
  have hembedded := performAll_answer he (Store.shows_new_embedded path home) qs
  have hrelational := performAll_answer hr (Store.shows_new_relational readOnly databaseHome) qs
  rw [Store.medium, Roll.answersOn_embedded] at hembedded
  rw [Store.medium] at hrelational
  refine ⟨hembedded, hrelational, ?_⟩
  rintro rfl hmoderate
  have hnew : Roll.new.AllModerate := fun email x hx => by simp [Roll.new] at hx
  rw [hrelational, Roll.answersOn_of_moderate hnew hmoderate]

/-- Both kinds of store, begun on new files, for instance. -/
theorem answers_of_new_files :
    let embedded := (start { StoreSettings.default with url := "redb://roster.redb" } .empty).session
    let relational := (start { StoreSettings.default with url := "sqlite://roster.db?mode=rwc" } .empty).session
    let qs := [.create ⟨"ann", "", ["b", "a", "b"]⟩, .usersByRole "b", .close, .users]
    (embedded.performAll qs).answer = (Roll.new.answers qs).map some ∧
      (relational.performAll qs).answer = (Roll.new.answers qs).map some := by
  intro embedded relational qs
  have he : embedded.store = some (.embedded ⟨"roster.redb", ⟨true, .empty⟩⟩ ["roster.redb"]) := rfl
  have hr : relational.store = some (.relational ⟨⟨true, false, .new⟩⟩ (.file ["roster.db"])) := rfl
  obtain ⟨hembedded, -, hfew⟩ := answers_of_new he hr qs
  refine ⟨hembedded, hfew rfl ?_⟩
  have hann : Medium.Moderate (User.mk "ann" "" ["b", "a", "b"]).normalized.roles :=
    Medium.moderate_normalized (by decide)
  simpa [qs, Request.stored?] using hann

/-- Somebody with one role too many is stored in a file of records, but not in a database. -/
theorem answers_of_new_crowded :
    let embedded := (start { StoreSettings.default with url := "redb://roster.redb" } .empty).session
    let relational := (start { StoreSettings.default with url := "sqlite://roster.db?mode=rwc" } .empty).session
    let qs := [.create (crowded 16384)]
    embedded.store = some (.embedded ⟨"roster.redb", ⟨true, .empty⟩⟩ ["roster.redb"]) ∧
      relational.store = some (.relational ⟨⟨true, false, .new⟩⟩ (.file ["roster.db"])) ∧
      Roll.new.answers qs = [.ok .done] ∧ (embedded.performAll qs).answer = [some (.ok .done)] ∧
      (relational.performAll qs).answer = [some (.error (.storage "add_roles" "too many SQL variables"))] := by
  intro embedded relational qs
  have hu : (crowded 16384).unfit? = none := unfit?_crowded (by decide)
  have hmany : Relational.Database.parameterLimit <
      2 * (crowded 16384).normalized.roles.length := by
    rw [length_crowd (by decide)]
    decide
  have hcreate := Roll.serve_create (r := .new) rfl hu rfl
  have hrefused := Roll.serveOn_create (m := .relational false) (r := .new) rfl hu rfl
  rw [Medium.creating?_of_many hmany] at hrefused
  have hanswers : Roll.new.answers qs = [.ok .done] := by simp only [qs, Roll.answers, hcreate]
  have hembedded : (embedded.performAll qs).answer = (Roll.new.answersOn .embedded qs).map some :=
    performAll_answer rfl (Store.shows_new_embedded "roster.redb" ["roster.redb"]) qs
  have hrelational : (relational.performAll qs).answer = (Roll.new.answersOn (.relational false) qs).map some :=
    performAll_answer rfl (Store.shows_new_relational false (.file ["roster.db"])) qs
  refine ⟨rfl, rfl, hanswers, ?_, ?_⟩
  · rw [hembedded, Roll.answersOn_embedded, hanswers]
    rfl
  · rw [hrelational]
    simp only [qs, Roll.answersOn, hrefused]
    rfl

end Session

end Roster
