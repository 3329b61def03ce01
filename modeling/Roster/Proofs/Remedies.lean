import Roster.Proofs.Embedded.Failures
import Roster.Proofs.Session

/-!
# Remedies that nobody needs

When its tables do not go together, an embedded store helps itself: it passes over entries of the
index that are missing, cannot be read or lead nowhere, and refuses records that it cannot read. From
a file without users on none of this is ever called for, even if calls of the engine fail and callers
go away, because a request that fails leaves the tables as they were.
-/

namespace Roster

namespace Embedded

open Script Operation

/-! ## Requests to an engine that fails -/

/-- Which calls of the engine fail, with which message, and what each leaves of its caller's own part. -/
abbrev Plan := Nat → Option (String × (Caller → Caller))

/-- Serves a request while calls fail as planned. The caller stays, or goes away at the first moment it
has to wait. -/
def Store.performUnder (s : Store) (plan : Plan) (gone : Bool) (q : Request) : Store.Outcome :=
  let o := (ofRequest s.path q).run (faulty serve plan) (0, s.shared, ⟨.none, gone, false⟩)
  ⟨o.answer, { s with shared := o.state.2.1 }, o.events⟩

/-- Without a failure, that is what the store does anyway. -/
theorem Store.performUnder_none (s : Store) (gone : Bool) (q : Request) :
    let o := s.play ⟨.none, gone, false⟩ q
    s.performUnder (fun _ => none) gone q = ⟨o.answer, { s with shared := o.state.1 }, o.events⟩ := by
  obtain ⟨hanswer, hstate, hevents⟩ :=
    run_faulty_none serve (ofRequest s.path q) 0 (s.shared, ⟨.none, gone, false⟩)
  simp only [performUnder, play, hanswer, hstate, hevents]

/-- Once a call has failed, the operation makes no further call and uses no remedy. It fails with what
the engine said. -/
def Halts {α : Type} (s : Operation α) : Prop :=
  s.Stops (fun event => isRemedy event = false) fun e => ∃ name message, e = .storage name message

theorem halts_ask {α : Type} (c : Call α) (name : String) : Halts (ask name c) :=
  Stops.ask (fun message => ⟨name, message, rfl⟩) c

theorem composes_halts : Composes Halts where
  pure _ := trivial
  fail _ := trivial
  report _ := trivial
  ask c _ name := halts_ask c name
  bind := Stops.bind

theorem halts_commit (name : String) : Halts (commit name) := by
  refine Stops.bind (halts_ask _ name) fun gone => ?_
  cases gone with
  | true => exact ⟨fun message => ⟨rfl, name, message, rfl⟩, fun _ => trivial⟩
  | false => exact halts_ask _ name

variable {shared : Shared} {r : Roll}

/-- A store may be closed or not; what it shows is in its tables. -/
theorem Shows.of_tables {shared' : Shared} (h : Shows shared r) (ht : shared'.tables = shared.tables) :
    Shows shared' { r with isOpen := shared'.isOpen } :=
  ⟨rfl, ht ▸ h.keeps, h.fit⟩

/-- Whatever fails, the store shows a roll afterwards, has used no remedy, and has read every record. -/
theorem Shows.performUnder {s : Store} (h : Shows s.shared r) (plan : Plan) (gone : Bool) (q : Request) :
    (∃ r', Shows (s.performUnder plan gone q).state.shared r') ∧
      (∀ event ∈ (s.performUnder plan gone q).events, isRemedy event = false) ∧
      ∀ key message, (s.performUnder plan gone q).answer ≠ .error (.serialization key message) := by
  have hserves := h.serves q s.path .none gone false
  have hhalts := composes_halts.ofRequest halts_commit s.path q
  rcases hhalts.run_faulty serve plan 0 (s.shared, ⟨.none, gone, false⟩) with
    ⟨hanswer, hstate, hevents⟩ | ⟨⟨e, hanswer, name, message, rfl⟩, hevents⟩
  · -- no call has failed: the request was served as the roll says, or cancelled
    simp only [Store.performUnder, hanswer, hstate, hevents]
    refine ⟨?_, hserves.consistent, fun key message hs => ?_⟩
    · rcases hserves.effect with ⟨-, hshows⟩ | ⟨-, -, hshows⟩
      · exact ⟨_, hshows⟩
      · exact ⟨_, hshows⟩
    · rcases hserves.effect with ⟨he, -⟩ | ⟨-, he, -⟩
      · rw [he] at hs
        rcases Roll.error_of_serve hs with (he | he | ⟨reason, he⟩) | ⟨he, -⟩ <;> cases he
      · rw [he] at hs
        cases hs
  · -- a call has failed, so the tables are as before
    have htables := tables_of_error s.path plan s.shared ⟨.none, gone, false⟩ hanswer
    refine ⟨⟨_, h.of_tables htables⟩, fun event he => ?_, fun key message' hs => ?_⟩
    · exact (hevents event he).elim (hserves.consistent event) id
    · rw [Store.performUnder, hanswer] at hs
      cases hs

end Embedded

namespace Session

open Files Settings Embedded

/-! ## Over time -/

/-- What happens to an embedded store over time. -/
inductive Turn where
  /-- A request whose calls fail as planned, of a caller that stays or goes away. -/
  | request (q : Request) (plan : Plan) (gone : Bool)
  /-- The store is closed, if it is open, and opened again. -/
  | reopen

/-- The session after a turn. -/
def turn (s : Session) : Turn → Session
  | .request q plan gone =>
    match s.store with
    | some (.embedded store home) =>
      { s with store := some (.embedded (store.performUnder plan gone q).state home) }
    | _ => s
  | .reopen => s.reopen.session

/-- The session after turns. -/
def afterTurns (s : Session) (turns : List Turn) : Session := turns.foldl turn s

variable {s : Session} {path : String} {home : Place} {r : Roll}

theorem Shows.turn (h : Shows s path home r) (turn : Turn) : ∃ r, Shows (s.turn turn) path home r := by
  cases turn with
  | reopen => exact ⟨_, h.reopen.2⟩
  | request q plan gone =>
    obtain ⟨shared, hs, hr⟩ := h.store
    obtain ⟨⟨r', hr'⟩, -⟩ := Embedded.Shows.performUnder (s := ⟨path, shared⟩) hr plan gone q
    simp only [Session.turn, hs]
    exact ⟨r', h.settings, h.housed, _, rfl, hr'⟩

theorem Shows.afterTurns (h : Shows s path home r) (turns : List Turn) :
    ∃ r, Shows (s.afterTurns turns) path home r := by
  induction turns generalizing s r with
  | nil => exact ⟨r, h⟩
  | cons turn turns ih =>
    obtain ⟨r, h⟩ := h.turn turn
    exact ih h

/-- From a file without users on, no request makes an embedded store use one of its remedies or meets a
record that cannot be read: after any turns, whatever fails and whoever goes away. While nothing fails
an open store refuses what is unfit, who is there already and who is not there, and nothing else. -/
theorem remedies_unused {settings : StoreSettings} {tree : Tree} {path : String} {home : Place}
    (hnew : (start settings tree).session.store = some (.embedded ⟨path, ⟨true, .empty⟩⟩ home))
    (turns : List Turn) :
    let s := (start settings tree).session.afterTurns turns
    s.reopen.answer = .ok () ∧ ∃ store, s.store = some (.embedded store home) ∧
      (∀ plan gone q,
        (∀ event ∈ (store.performUnder plan gone q).events, isRemedy event = false) ∧
          ∀ key message, (store.performUnder plan gone q).answer ≠ .error (.serialization key message)) ∧
      (store.shared.isOpen = true → ∀ q e, (store.perform q).answer = .error e →
        e = .userNotFound ∨ e = .userAlreadyExists ∨ ∃ reason, e = .validation reason) := by
  intro s
  have hshows : Embedded.Shows ⟨true, .empty⟩ Roll.new := ⟨rfl, keeps_empty, Roll.fit_new⟩
  obtain ⟨r, h⟩ := (shows_start hnew hshows).afterTurns turns
  obtain ⟨shared, hs, hr⟩ := h.store
  refine ⟨h.reopen.1, ⟨path, shared⟩, hs, fun plan gone q => ?_, fun hopen q e he => ?_⟩
  · exact (Embedded.Shows.performUnder (s := ⟨path, shared⟩) hr plan gone q).2
  · -- the caller stays, so the answer is the one that the roll gives
    rcases (hr.serves q path .none false false).effect with ⟨hanswer, -⟩ | ⟨hgone, -⟩
    · refine (Roll.error_of_serve (hanswer.symm.trans he)).resolve_right fun hclosed => ?_
      have hopen' : r.isOpen = true := hr.isOpen ▸ hopen
      rw [hclosed.2] at hopen'
      cases hopen'
    · cases hgone

/-- An update whose seventh call fails and a deletion that nobody waits for, for instance. -/
theorem remedies_unused_new_file :
    let settings := { StoreSettings.default with url := "redb://roster.redb" }
    let full : Plan := fun n => if n = 6 then some ("disk full", id) else none
    let s := (start settings .empty).session.afterTurns
      [.request (.create ⟨"ann", "", ["b", "a", "b"]⟩) (fun _ => none) false,
        .request (.update ⟨"ann", "", ["c"]⟩) full false, .reopen, .request (.delete "ann") (fun _ => none) true]
    (start settings .empty).session.store =
        some (.embedded ⟨"roster.redb", ⟨true, .empty⟩⟩ ["roster.redb"]) ∧
      s.reopen.answer = .ok () ∧ ∃ store, s.store = some (.embedded store ["roster.redb"]) ∧
        (∀ plan gone q,
          (∀ event ∈ (store.performUnder plan gone q).events, isRemedy event = false) ∧
            ∀ key message, (store.performUnder plan gone q).answer ≠ .error (.serialization key message)) ∧
        (store.shared.isOpen = true → ∀ q e, (store.perform q).answer = .error e →
          e = .userNotFound ∨ e = .userAlreadyExists ∨ ∃ reason, e = .validation reason) :=
  ⟨rfl, remedies_unused rfl _⟩

end Session

end Roster
