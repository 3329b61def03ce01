import Roster.Proofs.Closing
import Roster.Startup

/-!
# Restarts

A store that is closed leaves in its file what it holds, and opening takes the file as it finds it. So
the file rests: it may be opened and closed any number of times, by the start-up program too, and the
store that comes back is the one that was closed.
-/

namespace Roster

open Files Settings

/-! ## Files of stores -/

namespace Store

variable {s s' : Store} {r r' : Roll} {q : Request} {a : Except StoreError Answer}

/-- The place of the store's file; none for a database in memory. -/
def place? : Store → Option Place
  | embedded _ home => some home
  | relational _ (.file home) => some home
  | relational _ .memory => none

theorem place?_perform (s : Store) (q : Request) : (s.perform q).state.place? = s.place? := by
  cases s with
  | embedded s home => rfl
  | relational s home => cases home <;> rfl

theorem backend_perform (s : Store) (q : Request) : (s.perform q).state.backend = s.backend := by
  cases s <;> rfl

/-- What is saved is what the store holds, in the place of its file. -/
theorem save_eq (s : Store) (t : Tree) :
    s.save t = match s.place? with
      | none => t
      | some home => t.put home (.file s.content) := by
  cases s with
  | embedded s home => rfl
  | relational s home => cases home <;> rfl

/-- A request that no medium refuses and that leaves the entries alone leaves the file alone. -/
theorem Shows.performed (h : s.Shows r) (hnever : s.medium.refusal? r q = none) (hq : r.serve q = (a, r'))
    (hentries : r'.entries = r.entries) :
    (s.perform q).answer = a ∧ (s.perform q).state.Shows r' ∧ ∀ t, (s.perform q).state.save t = s.save t := by
  obtain ⟨hanswer, hshows, -⟩ := h.perform q
  rw [Roll.serveOn_of_none hnever, hq] at hanswer hshows
  refine ⟨hanswer, hshows, fun t => ?_⟩
  rw [save_eq, save_eq, place?_perform, hshows.content_eq h hentries (s.backend_perform q)]

/-- The start-up program finds its way through a store that shows an open roll, and leaves the file as
the store has it. -/
theorem Shows.look (h : s.Shows r) (hopen : r.isOpen = true) (t : Tree) :
    (Startup.look s t).result = .ok () ∧ (Startup.look s t).tree = s.save t := by
  obtain ⟨husers, h', hsave⟩ := h.performed (q := .users) rfl (Roll.serve_eq_answer rfl hopen) rfl
  obtain ⟨hroles, h'', hsave'⟩ := h'.performed (q := .liveRoles) rfl (Roll.serve_eq_answer rfl hopen) rfl
  obtain ⟨hclose, -, hsave''⟩ := h''.performed (q := .close) rfl (Roll.serve_eq_answer rfl hopen) rfl
  unfold Startup.look
  simp only [husers, hroles, hclose]
  exact ⟨rfl, by rw [hsave'', hsave', hsave]⟩

end Store

/-! ## Files at rest -/

/-- Settings that open the store of others: they have its URL, and time to connect if the others have. -/
structure Settings.StoreSettings.SameStore (settings' settings : StoreSettings) : Prop where
  url : settings'.url = settings.url
  patient : settings.acquireTimeout ≠ 0 → settings'.acquireTimeout ≠ 0

namespace Relational

variable {settings settings' : StoreSettings} {t : Tree} {db : Database} {p : Place} {l : Location} {readOnly : Bool}

theorem Locates.sameStore (h : Locates settings l) (hsame : settings'.SameStore settings) :
    Locates settings' l where
  nonblank := by rw [hsame.url]; exact h.nonblank
  scheme := by rw [hsame.url]; exact h.scheme
  location := by rw [hsame.url]; exact h.location
  patient := hsame.patient h.patient

/-- Whoever opens the store of a database file again finds what is there, and leaves it there. -/
theorem comesBack_of_sameStore (h : (connect settings t).result = .ok (db, .file p, readOnly))
    (hsame : settings'.SameStore settings) : ComesBack (connect settings') readOnly (.file p) := by
  obtain ⟨l, hl⟩ := locates_of_connect h
  rw [hl.connect] at h
  rw [(hl.sameStore hsame).connect]
  exact (file_of_connectAt h).2 settings'

end Relational

/-- A store of some settings is at rest in a tree: its file holds what it is to hold when it is open. -/
inductive Rests (settings : StoreSettings) (t : Tree) : Store → Prop
  | embedded {path : String} {home : Place} {tables : Embedded.Tables}
      (hbackend : settings.backend? = .ok (.embedded path)) (hhoused : Housed t path home)
      (hfile : t.node? home = some (.file (.embedded (.ofTables tables)))) :
      Rests settings t (.embedded ⟨path, ⟨true, tables⟩⟩ home)
  | relational {url : String} {p : Place} {readOnly : Bool} {db : Relational.Database}
      (hbackend : settings.backend? = .ok (.relational url))
      (hconnects : Relational.ComesBack (Relational.connect settings) readOnly (.file p))
      (hcreated : db.AsCreated) (hfile : t.node? p = some (.file (.relational db))) :
      Rests settings t (.relational ⟨⟨true, readOnly, db⟩⟩ (.file p))

namespace Rests

variable {settings settings' : StoreSettings} {t : Tree} {store store' : Store} {r : Roll}

/-- What is saved goes where it was. -/
theorem save (h : Rests settings t store) : Rests settings (store.save t) store := by
  cases h with
  | embedded hbackend hhoused hfile =>
    obtain ⟨hhoused, hfile⟩ := hhoused.put _
    exact .embedded hbackend hhoused hfile
  | relational hbackend hconnects hcreated hfile =>
    exact .relational hbackend hconnects hcreated (Tree.node?_put_file (Tree.takes_file hfile _))

/-- Opening a store at rest brings it back and leaves it at rest. -/
theorem opens (h : Rests settings t store) (hsame : settings'.SameStore settings) :
    (Opening.ofSettings settings' [] t).result = .ok store ∧
      Rests settings (Opening.ofSettings settings' [] t).tree store := by
  have hbackend' : settings'.backend? = settings.backend? := by
    unfold StoreSettings.backend?
    rw [hsame.url]
  unfold Opening.ofSettings
  cases h with
  | embedded hbackend hhoused hfile =>
    obtain ⟨hresult, htree⟩ := Opening.embedded_of_housed hhoused hfile
    rw [hbackend', hbackend]
    simp only [hresult, htree, true_and]
    exact save (.embedded hbackend hhoused hfile)
  | relational hbackend hconnects hcreated hfile =>
    obtain ⟨hfound, -⟩ := hconnects t _ hcreated hfile
    obtain ⟨hresult, hstays⟩ := Relational.comesBack_of_sameStore hfound hsame t _ hcreated hfile
    rw [hbackend', hbackend]
    unfold Opening.relational
    simp only [hresult, true_and]
    exact .relational hbackend hconnects hcreated hstays

/-- The start-up program is a success on a store at rest, and leaves it at rest. -/
theorem visit (h : Rests settings t store) (hsame : settings'.SameStore settings) (hshows : store.Shows r)
    (hopen : r.isOpen = true) :
    (Startup.visit settings' t).result = .ok () ∧ Rests settings (Startup.visit settings' t).tree store := by
  obtain ⟨hresult, hrests⟩ := h.opens hsame
  obtain ⟨hlook, htree⟩ := hshows.look hopen (Opening.ofSettings settings' [] t).tree
  unfold Startup.visit
  simp only [hresult, hlook, htree, true_and]
  exact hrests.save

end Rests

/-! ## Sessions that are restarted -/

namespace Session

variable {s : Session} {store : Store} {r : Roll}

/-- A time when a store is closed: runs of the start-up program, and an opening, each with settings of
its own. -/
structure Restart where
  visits : List StoreSettings
  settings : StoreSettings

/-- A run of the start-up program, which has to be a success. -/
def visit? (t : Tree) (settings : StoreSettings) : Except StoreError Tree :=
  let v := Startup.visit settings t
  v.result.map fun () => v.tree

/-- Closes the store, visits it, and opens it again; everything has to be a success. -/
def restart? (s : Session) (x : Restart) : Except StoreError Session := do
  let closed := s.perform .close
  let _ ← closed.answer.getD (.error .closed)
  let tree ← x.visits.foldlM visit? closed.session.settled
  let opened := start x.settings tree
  opened.answer
  return opened.session

theorem visits_of_rests {settings : StoreSettings} {t : Tree} (h : Rests settings t store) (hshows : store.Shows r)
    (hopen : r.isOpen = true) {visits : List StoreSettings} (hsame : ∀ x ∈ visits, x.SameStore settings) :
    ∃ t', visits.foldlM visit? t = .ok t' ∧ Rests settings t' store := by
  induction visits generalizing t with
  | nil => exact ⟨t, rfl, h⟩
  | cons x visits ih =>
    obtain ⟨hx, hvisits⟩ := List.forall_mem_cons.1 hsame
    obtain ⟨hresult, hrests⟩ := h.visit hx hshows hopen
    obtain ⟨t', ht', hrests'⟩ := ih hrests hvisits
    refine ⟨t', ?_, hrests'⟩
    rw [List.foldlM_cons, visit?, hresult]
    exact ht'

/-- The session has an open store, which is at rest as soon as it is closed. -/
structure Restartable (settings : StoreSettings) (s : Session) (store : Store) (r : Roll) : Prop where
  holds : s.store = some store
  shows : store.Shows r
  isOpen : r.isOpen = true
  rests : Rests settings s.settled store

theorem Restartable.restart {settings : StoreSettings} (h : Restartable settings s store r) {x : Restart}
    (hsame : ∀ y ∈ x.settings :: x.visits, y.SameStore settings) :
    ∃ s', s.restart? x = .ok s' ∧ Restartable settings s' store r := by
  obtain ⟨hsettings, hvisits⟩ := List.forall_mem_cons.1 hsame
  -- closing leaves the file as it is
  obtain ⟨hclose, -, hsave⟩ := h.shows.performed (q := .close) rfl (Roll.serve_eq_answer rfl h.isOpen) rfl
  have hsettled : (s.perform .close).session.settled = s.settled := by
    rw [perform_eq h.holds, settled, settled, h.holds]
    exact hsave _
  obtain ⟨t, ht, hrests⟩ := visits_of_rests h.rests h.shows h.isOpen hvisits
  obtain ⟨hresult, hopened⟩ := hrests.opens hsettings
  have hstart : start x.settings t =
      ⟨.ok (), ⟨x.settings, (Opening.ofSettings x.settings [] t).tree, some store⟩,
        (Opening.ofSettings x.settings [] t).events⟩ := by
    rw [start, hresult]
  refine ⟨⟨x.settings, (Opening.ofSettings x.settings [] t).tree, some store⟩, ?_, rfl, h.shows, h.isOpen,
    hopened.save⟩
  rw [restart?, hsettled, perform_eq h.holds, hclose, ht]
  show (do (start x.settings t).answer; return (start x.settings t).session) = _
  rw [hstart]
  rfl

theorem Restartable.restarts {settings : StoreSettings} (h : Restartable settings s store r) {restarts : List Restart}
    (hsame : ∀ x ∈ restarts, ∀ y ∈ x.settings :: x.visits, y.SameStore settings) :
    ∃ s', restarts.foldlM restart? s = .ok s' ∧ Restartable settings s' store r := by
  induction restarts generalizing s with
  | nil => exact ⟨s, rfl, h⟩
  | cons x restarts ih =>
    obtain ⟨hx, hrestarts⟩ := List.forall_mem_cons.1 hsame
    obtain ⟨s', hs', h'⟩ := h.restart hx
    obtain ⟨s'', hs'', h''⟩ := ih h' hrestarts
    refine ⟨s'', ?_, h''⟩
    rw [List.foldlM_cons, hs']
    exact hs''

/-- Every open store on a file that comes about can be restarted. -/
theorem Reachable.restartable (hs : Reachable s) (hstore : s.store = some store)
    (hfile : store.place?.isSome = true) (hclose : (s.perform .close).answer = some (.ok .done)) :
    ∃ r, Restartable s.settings s store r := by
  obtain ⟨m, r, h⟩ := hs.shows
  rw [(h.perform .close).1] at hclose
  have hopen := Roll.of_serveOn_close (Option.some.inj hclose)
  refine ⟨r, ?_⟩
  cases h with
  | tables h =>
    obtain ⟨⟨isOpen, tables⟩, hs, hr⟩ := h.store
    obtain rfl : isOpen = true := hr.isOpen.trans hopen
    obtain rfl := Option.some.inj (hs.symm.trans hstore)
    obtain ⟨hhoused, hnode⟩ := h.housed_settled hs
    exact ⟨hs, hr, hopen, .embedded h.settings hhoused hnode⟩
  | rows h =>
    rename_i home readOnly
    obtain ⟨⟨isOpen, _, db⟩, hs, hr, rfl⟩ := h.store
    obtain rfl : isOpen = true := hr.isOpen.trans hopen
    obtain rfl := Option.some.inj (hs.symm.trans hstore)
    obtain ⟨url, hb⟩ := h.settings
    cases home with
    | memory => cases hfile
    | file p => exact ⟨hs, hr, hopen, .relational hb h.comesBack hr.keeps.asCreated (h.node?_settled hs)⟩

/-- What is answered depends on the store alone. -/
theorem performAll_of_store {s s' : Session} (h : s'.store = s.store) (qs : List Request) :
    (s'.performAll qs).answer = (s.performAll qs).answer ∧
      (s'.performAll qs).session.store = (s.performAll qs).session.store := by
  induction qs generalizing s s' with
  | nil => exact ⟨rfl, h⟩
  | cons q qs ih =>
    have hq : (s'.perform q).answer = (s.perform q).answer ∧
        (s'.perform q).session.store = (s.perform q).session.store := by
      unfold perform
      rw [h]
      cases s.store <;> simp [h]
    obtain ⟨hanswer, hstore⟩ := ih hq.2
    exact ⟨congrArg₂ _ hq.1 hanswer, hstore⟩

/-- An open store on a file, of either kind and in any state that comes about, can be closed, visited by
the start-up program and opened again any number of times, with any settings that open the same store.
All of that succeeds, and whatever is asked from then on is answered, and leaves behind what it would
have left, as if the store had never been closed. -/
theorem restarts_unnoticed (hs : Reachable s) (hstore : s.store = some store)
    (hfile : store.place?.isSome = true) (hclose : (s.perform .close).answer = some (.ok .done))
    {restarts : List Restart} (hsame : ∀ x ∈ restarts, ∀ y ∈ x.settings :: x.visits, y.SameStore s.settings) :
    ∃ s', restarts.foldlM restart? s = .ok s' ∧ s'.stored = s.stored ∧
      ∀ qs, (s'.performAll qs).answer = (s.performAll qs).answer ∧
        (s'.performAll qs).session.stored = (s.performAll qs).session.stored := by
  obtain ⟨r, h⟩ := hs.restartable hstore hfile hclose
  obtain ⟨s', hs', h'⟩ := h.restarts hsame
  have hsameStore : s'.store = s.store := h'.holds.trans h.holds.symm
  refine ⟨s', hs', by rw [stored, stored, hsameStore], fun qs => ?_⟩
  obtain ⟨hanswer, hleft⟩ := performAll_of_store hsameStore qs
  exact ⟨hanswer, by rw [stored, stored, hleft]⟩

/-- A user that was created is there after two restarts, with a visit and other settings in between. -/
theorem restarts_unnoticed_by_user :
    let ann : User := ⟨"ann", "Ann", ["b", "a", "b"]⟩
    let redb := { StoreSettings.default with url := "redb://roster.redb" }
    let sqlite := { StoreSettings.default with url := "sqlite://roster.db?mode=rwc" }
    let restarts (x : StoreSettings) : List Restart := [⟨[x], { x with maxConnections := 3 }⟩, ⟨[], x⟩]
    (∃ s', (restarts redb).foldlM restart? ((start redb .empty).session.after (.request (.create ann))) = .ok s' ∧
        (s'.performAll [.user "ann"]).answer = [some (.ok (.user ann.normalized))]) ∧
      ∃ s', (restarts sqlite).foldlM restart? ((start sqlite .empty).session.after (.request (.create ann))) = .ok s' ∧
        (s'.performAll [.user "ann"]).answer = [some (.ok (.user ann.normalized))] := by
  have hboth {x : StoreSettings} {u : User} {store : Store} (h : (start x .empty).session.store = some store)
      (hnew : store.IsNew) (hfile : store.place?.isSome = true) (hu : u.unfit? = none)
      (hcreating : store.medium.creating? u.normalized.roles = none) :
      ∃ s', [⟨[x], { x with maxConnections := 3 }⟩, ⟨[], x⟩].foldlM restart?
            ((start x .empty).session.after (.request (.create u))) = .ok s' ∧
        (s'.performAll [.user u.email]).answer = [some (.ok (.user u.normalized))] := by
    have hshows := showsEither_new h hnew
    have hcreate := Roll.serveOn_create (m := store.medium) (r := .new) rfl hu rfl
    rw [hcreating] at hcreate
    have hcreated := (hshows.performed hcreate).2
    have hclose : (((start x .empty).session.perform (.create u)).session.perform .close).answer =
        some (.ok .done) := by
      rw [(hcreated.perform .close).1, Roll.serveOn_close (r := Roll.new.put u) _ rfl]
    have hsession : (start x .empty).session.after (.request (.create u)) =
        { (start x .empty).session with store := some (store.perform (.create u)).state } := by
      rw [after, perform_eq h]
    have hrestarts : ∀ y ∈ [⟨[x], { x with maxConnections := 3 }⟩, ⟨[], x⟩],
        ∀ z ∈ Restart.settings y :: y.visits, z.SameStore x := by
      simp only [List.forall_mem_cons]
      exact ⟨⟨⟨rfl, id⟩, ⟨rfl, id⟩, nofun⟩, ⟨⟨rfl, id⟩, nofun⟩, nofun⟩
    obtain ⟨s', hs', -, hsame⟩ := restarts_unnoticed (.after (.start _ _ h hnew) (.request (.create u)))
      (by rw [hsession]) (by rw [Store.place?_perform]; exact hfile) hclose
      (by rw [hsession, settings_start]; exact hrestarts)
    refine ⟨s', hs', (hsame _).1.trans ?_⟩
    exact congrArg (fun a => [a]) (hshows.user_of_create rfl hu rfl hcreating)
  have hfew : Medium.Moderate (User.mk "ann" "Ann" ["b", "a", "b"]).normalized.roles :=
    Medium.moderate_normalized (by decide)
  have hcreating := (Medium.of_holds (m := .relational false) ⟨rfl, hfew⟩ ⟨rfl, hfew⟩).1
  have hrows := Store.IsNew.relational (.file ["roster.db"]) false
  exact ⟨hboth rfl (.embedded "roster.redb" ["roster.redb"]) rfl (by decide) rfl,
    hboth rfl hrows rfl (by decide) hcreating⟩

end Session

end Roster
