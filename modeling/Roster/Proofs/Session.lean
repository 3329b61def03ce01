import Roster.Proofs.Embedded.Refinement
import Roster.Proofs.Opening
import Roster.Session

/-!
# Sessions with an embedded store

From the moment a store is opened on a file without users, whatever is asked of it, abandoned, or
interrupted by closing and opening again, its two tables go together.
-/

namespace Roster

namespace Embedded

/-- Every record is one that may be stored under its key, and the keys of the index are those of the
roles in the records. -/
structure Tables.Consistent (t : Tables) : Prop where
  record (email : String) (record : Bytes) (h : t.users.find? email = some record) :
    ∃ u, Record.decode record = .ok u ∧ u.email = email ∧ u.unfit? = none ∧ Ascending u.roles
  index (key : Bytes) :
    key ∈ t.index.keys ↔ ∃ email record u role, t.users.find? email = some record ∧
      Record.decode record = .ok u ∧ role ∈ u.roles ∧ key = memberKey role email

theorem Shows.consistent {shared : Shared} {r : Roll} (h : Shows shared r) :
    shared.tables.Consistent where
  record email record hrecord := by
    rw [h.keeps.users] at hrecord
    obtain ⟨x, hx, rfl⟩ := Option.map_eq_some_iff.1 hrecord
    exact ⟨x.user email, Record.decode_encode _, rfl, h.fit email x hx, x.ascending⟩
  index key := by
    rw [h.keeps.mem_index]
    constructor
    · rintro ⟨email, x, hx, role, hrole, hkey⟩
      refine ⟨email, _, x.user email, role, ?_, Record.decode_encode _, hrole, hkey⟩
      rw [h.keeps.users, hx, Option.map_some]
    · rintro ⟨email, record, u, role, hrecord, hu, hrole, hkey⟩
      rw [h.keeps.users] at hrecord
      obtain ⟨x, hx, rfl⟩ := Option.map_eq_some_iff.1 hrecord
      rw [Record.decode_encode] at hu
      cases hu
      exact ⟨email, x, hx, role, hrole, hkey⟩

end Embedded

namespace Session

open Files Settings

/-- What happens to a store over time. -/
inductive Move where
  | request (q : Request)
  /-- A request whose caller goes away at the first moment it has to wait. -/
  | abandoned (q : Request)
  /-- The store is closed, if it is open, and opened again. -/
  | reopen

/-- The session after a move. -/
def after (s : Session) : Move → Session
  | .request q => (s.perform q).session
  | .abandoned q => (s.abandon q).session
  | .reopen => s.reopen.session

/-- The session after moves in turn. -/
def afterAll (s : Session) (moves : List Move) : Session := moves.foldl after s

/-- The session has an embedded store that shows a roll, and whose file can be opened again. -/
structure Shows (s : Session) (path : String) (home : Place) (r : Roll) : Prop where
  settings : s.settings.backend? = .ok (.embedded path)
  housed : Housed s.tree path home
  store : ∃ shared, s.store = some (.embedded ⟨path, shared⟩ home) ∧ Embedded.Shows shared r

variable {s : Session} {path : String} {home : Place} {r : Roll}

theorem settings_start (settings : StoreSettings) (t : Tree) : (start settings t).session.settings = settings := by
  unfold start
  simp only
  cases (Opening.ofSettings settings [] t).result <;> rfl

theorem result_of_start {settings : StoreSettings} {tree : Tree} {store : Store}
    (h : (start settings tree).session.store = some store) :
    (Opening.ofSettings settings [] tree).result = .ok store := by
  unfold start at h
  dsimp only at h
  split at h
  · cases h
  · rename_i hresult
    cases h
    exact hresult

/-- A session that has begun has its file in place. -/
theorem shows_start {settings : StoreSettings} {tree : Tree} {tables : Embedded.Tables}
    (h : (start settings tree).session.store = some (.embedded ⟨path, ⟨true, tables⟩⟩ home))
    (hr : Embedded.Shows ⟨true, tables⟩ r) : Shows (start settings tree).session path home r := by
  unfold start Opening.ofSettings at h ⊢
  cases hb : settings.backend? with
  | error e => simp [hb] at h
  | ok backend =>
  cases backend with
  | relational url =>
    cases ho : (Opening.relational settings tree).result with
    | error e => simp [hb, ho] at h
    | ok store =>
      obtain ⟨db, home', rfl⟩ := Opening.relational_of_relational ho
      simp [hb, ho] at h
  | embedded path' =>
    simp only [hb] at h ⊢
    cases ho : (Opening.embedded path' [] tree).result with
    | error e => simp [ho] at h
    | ok store =>
      simp only [ho] at h ⊢
      obtain ⟨home', tables', rfl, hhoused⟩ := Opening.housed_of_embedded ho
      cases h
      exact ⟨hb, hhoused, _, rfl, hr⟩

/-- A request is answered as the roll says. -/
theorem Shows.perform (h : Shows s path home r) (q : Request) :
    (s.perform q).answer = some (r.serve q).1 ∧ Shows (s.perform q).session path home (r.serve q).2 := by
  obtain ⟨shared, hs, hr⟩ := h.store
  obtain ⟨hanswer, hshows⟩ | ⟨hgone, -⟩ := (hr.serves q path .none false false).effect
  · unfold Session.perform
    rw [hs]
    exact ⟨congrArg some hanswer, h.settings, h.housed, _, rfl, hshows⟩
  · cases hgone

theorem abandon_session {store : Embedded.Store} (hs : s.store = some (.embedded store home)) (q : Request) :
    (s.abandon q).session = { s with store := some (.embedded (store.abandon q).2.1 home) } := by
  rw [Session.abandon, hs]
  rfl

/-- An abandoned request takes effect in full or not at all. -/
theorem Shows.abandon (h : Shows s path home r) (q : Request) :
    Shows (s.abandon q).session path home r ∨ Shows (s.abandon q).session path home (r.serve q).2 := by
  obtain ⟨shared, hs, hr⟩ := h.store
  rw [abandon_session hs]
  obtain ⟨-, hshows⟩ | ⟨-, -, hshows⟩ := (hr.serves q path .none true false).effect
  · exact .inr ⟨h.settings, h.housed, _, rfl, hshows⟩
  · exact .inl ⟨h.settings, h.housed, _, rfl, hshows⟩

/-- Once the store is closed, its file holds the tables that the store held. -/
theorem Shows.housed_settled (h : Shows s path home r) {shared : Embedded.Shared}
    (hs : s.store = some (.embedded ⟨path, shared⟩ home)) :
    Housed s.settled path home ∧ s.settled.node? home = some (.file (.embedded (.ofTables shared.tables))) := by
  rw [settled, hs]
  exact h.housed.put _

/-- Opening again brings the same roll back, and it is open. -/
theorem Shows.reopen (h : Shows s path home r) :
    s.reopen.answer = .ok () ∧ Shows s.reopen.session path home { r with isOpen := true } := by
  obtain ⟨shared, hs, hr⟩ := h.store
  obtain ⟨hhoused, hfile⟩ := h.housed_settled hs
  obtain ⟨hresult, htree⟩ := Opening.embedded_of_housed hhoused hfile
  unfold Session.reopen start Opening.ofSettings
  simp only [h.settings, hresult, htree]
  exact ⟨trivial, h.settings, (hhoused.put _).1, _, rfl, rfl, hr.keeps, hr.fit⟩

/-- Whatever the move, some roll is shown afterwards. -/
theorem Shows.after (h : Shows s path home r) (move : Move) : ∃ r, Shows (s.after move) path home r := by
  cases move with
  | request q => exact ⟨_, (h.perform q).2⟩
  | abandoned q => exact (h.abandon q).elim (⟨_, ·⟩) (⟨_, ·⟩)
  | reopen => exact ⟨_, h.reopen.2⟩

theorem Shows.afterAll (h : Shows s path home r) (moves : List Move) :
    ∃ r, Shows (s.afterAll moves) path home r := by
  induction moves generalizing s r with
  | nil => exact ⟨r, h⟩
  | cons move moves ih =>
    obtain ⟨r, h⟩ := h.after move
    exact ih h

/-- From a file without users on, the two tables of an embedded store go together: after any requests,
abandoned or not, and any number of openings in between. -/
theorem tables_consistent {settings : StoreSettings} {tree : Tree} {path : String} {home : Place}
    (hnew : (start settings tree).session.store = some (.embedded ⟨path, ⟨true, .empty⟩⟩ home))
    (moves : List Move) :
    ∃ shared, ((start settings tree).session.afterAll moves).store =
        some (.embedded ⟨path, shared⟩ home) ∧ shared.tables.Consistent := by
  have hshows : Embedded.Shows ⟨true, .empty⟩ Roll.new := ⟨rfl, Embedded.keeps_empty, Roll.fit_new⟩
  obtain ⟨r, hr⟩ := (shows_start hnew hshows).afterAll moves
  obtain ⟨shared, hs, h⟩ := hr.store
  exact ⟨shared, hs, h.consistent⟩

theorem tables_consistent_new_file :
    let settings := { StoreSettings.default with url := "redb://roster.redb" }
    (start settings .empty).session.store =
        some (.embedded ⟨"roster.redb", ⟨true, .empty⟩⟩ ["roster.redb"]) ∧
      ∃ shared, ((start settings .empty).session.afterAll
          [.request (.create ⟨"ann", "", ["b", "a", "b"]⟩), .reopen, .abandoned (.delete "ann")]).store =
        some (.embedded ⟨"roster.redb", shared⟩ ["roster.redb"]) ∧ shared.tables.Consistent :=
  ⟨rfl, tables_consistent rfl _⟩

end Session

end Roster
