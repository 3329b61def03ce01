import Roster.Proofs.Session
import Roster.Proofs.Store

/-!
# Sessions that come about

A session begins with a new store of either kind and goes on with requests, abandoned or not, and by
closing the store and opening it again. Whatever comes about that way has a store that shows a roll:
a file brings back what was left in it, and a database in memory begins anew.
-/

namespace Roster

open Files Settings

namespace Relational

/-! ## Connecting again -/

/-- Connecting finds the database that was left at home, and leaves it there. In memory none is left. -/
def ComesBack (connecting : Tree → Connecting) (readOnly : Bool) : Home → Prop
  | .memory => ∀ t, (connecting t).result = .ok (.new, .memory, readOnly)
  | .file p => ∀ t db, db.AsCreated → t.node? p = some (.file (.relational db)) →
      (connecting t).result = .ok (db, .file p, readOnly) ∧
        (connecting t).tree.node? p = some (.file (.relational db))

variable {settings : StoreSettings} {t : Tree} {l : Location} {path : String} {p : Place}
  {found : Option Database} {db : Database} {home : Home} {readOnly : Bool}

/-- A file that could be opened is opened in every tree that has a database in its place. -/
theorem openFile_ok (h : openFile l path t = .ok (p, found)) {t' : Tree}
    (hnode : t'.node? p = some (.file (.relational db))) : openFile l path t' = .ok (p, some db) := by
  unfold openFile at h ⊢
  simp only at h ⊢
  split at h
  · cases h
  rename_i hpath
  -- found or made, the file stands where the path leads
  obtain rfl : placeOf path = p := by
    split at h
    · cases h
    · cases h; rfl
    · cases h; rfl
    · cases h; rfl
    · split at h
      · cases h; rfl
      · cases h
  rw [if_neg hpath, hnode]

/-- A file that could be opened has a directory to lie in. -/
theorem takes_of_openFile (h : openFile l path t = .ok (p, found)) (c : Content) : t.takes p (.file c) = true := by
  unfold openFile at h
  simp only at h
  split at h
  · cases h
  split at h
  · cases h
  · cases h
    exact Tree.takes_file ‹_› c
  · cases h
    exact Tree.takes_file ‹_› c
  · cases h
    exact Tree.takes_file ‹_› c
  · rename_i hnone
    split at h
    · rename_i hmay
      cases h
      simp only [Bool.and_eq_true, Bool.not_eq_true'] at hmay
      exact Tree.takes_of_up hnone hmay.2 c
    · cases h

theorem keepFile_file (h : ∀ c, t.takes p (.file c) = true) (readOnly : Bool) (db : Database) :
    ∃ c, (keepFile t p readOnly db).node? p = some (.file c) := by
  unfold keepFile
  cases readOnly with
  | false => exact ⟨_, Tree.node?_put_file (h _)⟩
  | true =>
    cases hnode : t.node? p with
    | none => exact ⟨_, Tree.node?_put_file (h _)⟩
    | some n =>
      cases n with
      | file c => exact ⟨c, hnode⟩
      | directory => simpa [Tree.takes, Tree.isDirectory, hnode] using h (.bytes [])

theorem connected_ok {setting : List Creation × Database × Except ModelError Unit} {home' : Home}
    {readOnly' : Bool} (h : (connected settings home readOnly setting t).result = .ok (db, home', readOnly')) :
    setting.2.2 = .ok () ∧ db = setting.2.1 ∧ home' = home ∧ readOnly' = readOnly := by
  obtain ⟨made, db', result⟩ := setting
  cases result with
  | error e => cases h
  | ok u =>
    cases h
    exact ⟨rfl, rfl, rfl, rfl⟩

/-- A file that is connected to is there afterwards. -/
theorem file_of_connectFile (h : (connectFile settings l p found t).result = .ok (db, home, readOnly))
    (ht : ∀ c, t.takes p (.file c) = true) :
    home = .file p ∧ readOnly = (l.readOnly || l.immutable) ∧
      ∃ c, (connectFile settings l p found t).tree.node? p = some (.file c) := by
  unfold connectFile at h ⊢
  dsimp only at h ⊢
  split at h
  · cases (connected_ok h).1
  · rename_i hours
    obtain ⟨-, -, hhome, hreadOnly⟩ := connected_ok h
    rw [if_neg hours]
    exact ⟨hhome, hreadOnly, keepFile_file ht _ _⟩

/-- A database with the schema is taken as it is, and stays so. -/
theorem connectFile_of_node? (hdb : db.AsCreated) (hnode : t.node? p = some (.file (.relational db))) :
    (connectFile settings l p (some db) t).result = .ok (db, .file p, l.readOnly || l.immutable) ∧
      (connectFile settings l p (some db) t).tree.node? p = some (.file (.relational db)) := by
  have hours : isForeign t p = false := by rw [isForeign, hnode]
  unfold connectFile
  rw [hours, if_neg Bool.false_ne_true, Option.getD_some, hdb.setUp]
  refine ⟨rfl, ?_⟩
  show (keepFile t p _ db).node? p = _
  unfold keepFile
  cases l.readOnly || l.immutable with
  | false => exact Tree.node?_put_file (Tree.takes_file hnode _)
  | true => simp [hnode]

/-- A database in memory is new whenever it is connected to. -/
theorem connectMemory_ok (h : (connectMemory settings l t).result = .ok (db, home, readOnly)) :
    home = .memory ∧ ∀ t', (connectMemory settings l t').result = .ok (.new, .memory, readOnly) := by
  unfold connectMemory at h ⊢
  obtain ⟨hresult, -, rfl, rfl⟩ := connected_ok h
  refine ⟨rfl, fun t' => ?_⟩
  by_cases hgone : settings.maxLifetime = 0
  · -- there is no table for the first index
    simp only [hgone, if_true] at hresult
    cases hr : l.readOnly <;> rw [hr] at hresult <;> cases hresult
  · simp only [hgone, if_false] at hresult ⊢
    cases hr : l.readOnly with
    | true =>
      rw [hr] at hresult
      cases hresult
    | false => rfl

/-- Connecting is connecting to memory, or to a file that can be opened; the location alone decides. -/
theorem connectAt_ok (h : (connectAt settings l t).result = .ok (db, home, readOnly)) :
    (∀ settings' t', connectAt settings' l t' = connectMemory settings' l t') ∨
      ∃ path p found, openFile l path t = .ok (p, found) ∧
        ∀ settings' t' found', openFile l path t' = .ok (p, found') →
          connectAt settings' l t' = connectFile settings' l p found' t' := by
  unfold connectAt at h ⊢
  split at h
  case h_1 | h_2 => exact .inl fun _ _ => rfl
  case h_3 path hne hpath =>
    split at h
    · cases h
    · rename_i p found hopen
      refine .inr ⟨path, p, found, hopen, fun settings' t' found' hopen' => ?_⟩
      simp only [hopen']

/-- A file that was connected to is there, and found again with any other settings. -/
theorem file_of_connectAt (h : (connectAt settings l t).result = .ok (db, .file p, readOnly)) :
    (∃ c, (connectAt settings l t).tree.node? p = some (.file c)) ∧
      ∀ settings', ComesBack (connectAt settings' l) readOnly (.file p) := by
  rcases connectAt_ok h with hmemory | ⟨path, p', found, hopen, hfile⟩
  · rw [hmemory] at h
    cases (connectMemory_ok h).1
  · rw [hfile _ _ _ hopen] at h ⊢
    obtain ⟨hhome, rfl, hthere⟩ := file_of_connectFile h (takes_of_openFile hopen)
    cases hhome
    refine ⟨hthere, fun settings' t' db' hdb hnode => ?_⟩
    rw [hfile _ _ _ (openFile_ok hopen hnode)]
    exact connectFile_of_node? hdb hnode

theorem comesBack_connectAt (h : (connectAt settings l t).result = .ok (db, home, readOnly)) :
    ComesBack (connectAt settings l) readOnly home := by
  cases home with
  | file p => exact (file_of_connectAt h).2 settings
  | memory =>
    rcases connectAt_ok h with hmemory | ⟨path, p, found, hopen, hfile⟩
    · rw [hmemory] at h
      exact fun t' => by rw [hmemory, (connectMemory_ok h).2]
    · rw [hfile _ _ _ hopen] at h
      cases (file_of_connectFile h (takes_of_openFile hopen)).1

/-- The settings name a database file, or one in memory, and have the time to connect to it. -/
structure Locates (settings : StoreSettings) (l : Location) : Prop where
  nonblank : ¬ Text.isBlank settings.url = true
  scheme : schemeOf? settings.url = some "sqlite"
  location : location? settings.url = some l
  patient : settings.acquireTimeout ≠ 0

theorem Locates.connect (h : Locates settings l) : connect settings = connectAt settings l := by
  funext t
  unfold Relational.connect
  simp only [if_neg h.nonblank, h.scheme, h.location, if_neg h.patient]

/-- The settings alone decide where to connect, so it is the same for every tree. -/
theorem locates_of_connect (h : (connect settings t).result = .ok (db, home, readOnly)) :
    ∃ l, Locates settings l := by
  unfold connect at h
  simp only at h
  split at h
  · cases h
  rename_i hblank
  split at h
  · cases h
  · rename_i hscheme
    split at h
    · cases h
    rename_i l hl
    split at h
    · cases h
    · exact ⟨l, hblank, hscheme, hl, ‹_›⟩
  · cases h

theorem file_of_connect (h : (connect settings t).result = .ok (db, .file p, readOnly)) :
    ∃ c, (connect settings t).tree.node? p = some (.file c) := by
  obtain ⟨l, hl⟩ := locates_of_connect h
  rw [hl.connect] at h ⊢
  exact (file_of_connectAt h).1

theorem comesBack_connect (h : (connect settings t).result = .ok (db, home, readOnly)) :
    ComesBack (connect settings) readOnly home := by
  obtain ⟨l, hl⟩ := locates_of_connect h
  rw [hl.connect] at h ⊢
  exact comesBack_connectAt h

end Relational

namespace Session

variable {s : Session} {settings : StoreSettings} {tree : Tree} {home : Relational.Home} {readOnly : Bool}
  {r : Roll}

/-! ## Relational stores -/

/-- The session has a relational store that shows a roll, and whose database can be opened again. -/
structure ShowsRows (s : Session) (home : Relational.Home) (readOnly : Bool) (r : Roll) : Prop where
  settings : ∃ url, s.settings.backend? = .ok (.relational url)
  comesBack : Relational.ComesBack (Relational.connect s.settings) readOnly home
  housed (p : Place) (hp : home = .file p) : ∃ c, s.tree.node? p = some (.file c)
  store : ∃ shared, s.store = some (.relational ⟨shared⟩ home) ∧ Relational.Shows shared r ∧
    shared.readOnly = readOnly
  fit : r.Fit

/-- A session that has begun with a relational store has connected. -/
theorem connect_of_start {store : Relational.Store}
    (h : (start settings tree).session.store = some (.relational store home)) :
    ∃ url db, settings.backend? = .ok (.relational url) ∧
      (Relational.connect settings tree).result = .ok (db, home, store.shared.readOnly) := by
  unfold start Opening.ofSettings at h
  cases hb : settings.backend? with
  | error e => simp [hb] at h
  | ok backend =>
  cases backend with
  | embedded path =>
    cases ho : (Opening.embedded path [] tree).result with
    | error e => simp [hb, ho] at h
    | ok store =>
      obtain ⟨home', tables, rfl, -⟩ := Opening.housed_of_embedded ho
      simp [hb, ho] at h
  | relational url =>
    unfold Opening.relational at h
    cases hc : (Relational.connect settings tree).result with
    | error e => simp [hb, hc] at h
    | ok opened =>
      obtain ⟨db, home', readOnly⟩ := opened
      simp only [hb, hc, Option.some.injEq, Store.relational.injEq] at h
      obtain ⟨rfl, rfl⟩ := h
      exact ⟨url, db, rfl, rfl⟩

/-- A session that connects has begun with what it found. -/
theorem start_of_connect {url : String} {db : Relational.Database}
    (hb : settings.backend? = .ok (.relational url))
    (hc : (Relational.connect settings tree).result = .ok (db, home, readOnly)) :
    (start settings tree).answer = .ok () ∧
      (start settings tree).session.store = some (.relational ⟨⟨true, readOnly, db⟩⟩ home) ∧
      (start settings tree).session.tree = (Relational.connect settings tree).tree := by
  unfold start Opening.ofSettings Opening.relational
  simp only [hb, hc, and_self]

theorem showsRows_of_connect {url : String} {db : Relational.Database}
    (hb : settings.backend? = .ok (.relational url))
    (hc : (Relational.connect settings tree).result = .ok (db, home, readOnly))
    (hr : Relational.Shows ⟨true, readOnly, db⟩ r) (hfit : r.Fit) :
    (start settings tree).answer = .ok () ∧ ShowsRows (start settings tree).session home readOnly r := by
  obtain ⟨hanswer, hstore, htree⟩ := start_of_connect hb hc
  refine ⟨hanswer, ⟨url, ?_⟩, ?_, ?_, ⟨_, hstore, hr, rfl⟩, hfit⟩
  · rw [settings_start, hb]
  · rw [settings_start]
    exact Relational.comesBack_connect hc
  · rintro p rfl
    rw [htree]
    exact Relational.file_of_connect hc

theorem showsRows_start {store : Relational.Store}
    (h : (start settings tree).session.store = some (.relational store home))
    (hr : Relational.Shows store.shared r) (hfit : r.Fit) :
    ShowsRows (start settings tree).session home store.shared.readOnly r := by
  obtain ⟨url, db, hb, hc⟩ := connect_of_start h
  obtain ⟨-, hstore, -⟩ := start_of_connect hb hc
  rw [h, Option.some.injEq, Store.relational.injEq] at hstore
  have hshared : store.shared = ⟨true, store.shared.readOnly, db⟩ := congrArg Relational.Store.shared hstore.1
  exact (showsRows_of_connect hb hc (hshared ▸ hr) hfit).2

theorem ShowsRows.perform (h : ShowsRows s home readOnly r) (q : Request) :
    (s.perform q).answer = some (r.serveOn (.relational readOnly) q).1 ∧
      ShowsRows (s.perform q).session home readOnly (r.serveOn (.relational readOnly) q).2 := by
  obtain ⟨shared, hs, hr, rfl⟩ := h.store
  obtain ⟨hanswer, hshows, hreadOnly⟩ := hr.serves q
  rw [perform_eq hs]
  exact ⟨congrArg some hanswer, h.settings, h.comesBack, h.housed, ⟨_, rfl, hshows, hreadOnly⟩,
    Roll.fit_serveOn h.fit _ q⟩

theorem abandon_rows {store : Relational.Store} (hs : s.store = some (.relational store home)) (q : Request) :
    (s.abandon q).session = { s with store := some (.relational (store.abandon q).2.1 home) } := by
  rw [Session.abandon, hs]
  rfl

/-- What was abandoned has not been done, except that a store can be closed for good. -/
theorem ShowsRows.abandon (h : ShowsRows s home readOnly r) (q : Request) :
    ShowsRows (s.abandon q).session home readOnly (if q = .close then { r with isOpen := false } else r) := by
  obtain ⟨shared, hs, hr, hreadOnly⟩ := h.store
  rw [abandon_rows hs]
  refine ⟨h.settings, h.comesBack, h.housed, ⟨((Relational.Store.mk shared).abandon q).2.1.shared, rfl, ?_⟩, ?_⟩
  · rw [Relational.Store.abandon_shared]
    split
    · exact ⟨⟨rfl, hr.keeps⟩, hreadOnly⟩
    · exact ⟨hr, hreadOnly⟩
  · split
    · exact h.fit
    · exact h.fit

/-- Once the store is closed, its file holds what the store held. -/
theorem ShowsRows.node?_settled {p : Place} {shared : Relational.Shared} (h : ShowsRows s (.file p) readOnly r)
    (hs : s.store = some (.relational ⟨shared⟩ (.file p))) :
    s.settled.node? p = some (.file (.relational shared.database)) := by
  obtain ⟨c, hc⟩ := h.housed p rfl
  have hsettled : s.settled = s.tree.put p (.file (.relational shared.database)) := by
    rw [settled, hs]
    rfl
  rw [hsettled, Tree.node?_put_file (Tree.takes_file hc _)]

/-- Opening a database file again brings the same roll back, and it is open. -/
theorem ShowsRows.reopen {p : Place} (h : ShowsRows s (.file p) readOnly r) :
    s.reopen.answer = .ok () ∧ ShowsRows s.reopen.session (.file p) readOnly { r with isOpen := true } := by
  obtain ⟨url, hb⟩ := h.settings
  obtain ⟨shared, hs, hr, -⟩ := h.store
  obtain ⟨hresult, -⟩ := h.comesBack _ _ hr.keeps.asCreated (h.node?_settled hs)
  exact showsRows_of_connect hb hresult ⟨rfl, hr.keeps⟩ h.fit

/-- A database in memory begins anew. -/
theorem ShowsRows.reopen_memory (h : ShowsRows s .memory readOnly r) :
    s.reopen.answer = .ok () ∧ ShowsRows s.reopen.session .memory readOnly .new := by
  obtain ⟨url, hb⟩ := h.settings
  exact showsRows_of_connect hb (h.comesBack s.settled) ⟨rfl, Relational.keeps_new⟩ Roll.fit_new

theorem ShowsRows.after (h : ShowsRows s home readOnly r) (move : Move) :
    ∃ r, ShowsRows (s.after move) home readOnly r := by
  cases move with
  | request q => exact ⟨_, (h.perform q).2⟩
  | abandoned q => exact ⟨_, h.abandon q⟩
  | reopen =>
    cases home with
    | memory => exact ⟨_, h.reopen_memory.2⟩
    | file p => exact ⟨_, h.reopen.2⟩

end Session

/-! ## Stores of either kind -/

/-- The store is open and has no users yet. -/
inductive Store.IsNew : Store → Prop
  | embedded (path : String) (home : Place) : IsNew (.embedded ⟨path, ⟨true, .empty⟩⟩ home)
  | relational (home : Relational.Home) (readOnly : Bool) : IsNew (.relational ⟨⟨true, readOnly, .new⟩⟩ home)

namespace Session

/-- What the store of the session holds. -/
def stored (s : Session) : Option Content := s.store.map Store.content

/-- The kind of the session's store. -/
def backend? (s : Session) : Option Backend := s.store.map Store.backend

/-- What comes about from a new store. -/
inductive Reachable : Session → Prop
  | start (settings : StoreSettings) (tree : Tree) {store : Store}
      (h : (start settings tree).session.store = some store) (hnew : store.IsNew) :
      Reachable (start settings tree).session
  | after {s : Session} (h : Reachable s) (move : Move) : Reachable (s.after move)
  /-- The store is closed and opened with other settings, which find what was left. -/
  | resumed {s : Session} (h : Reachable s) (settings : StoreSettings)
      (hfound : (Session.start settings s.settled).session.stored = s.stored) :
      Reachable (Session.start settings s.settled).session

/-- The session has a store on a medium that shows a roll and can be opened again. -/
inductive ShowsEither (s : Session) : Medium → Roll → Prop
  | tables {path : String} {home : Place} {r : Roll} (h : Shows s path home r) : ShowsEither s .embedded r
  | rows {home : Relational.Home} {readOnly : Bool} {r : Roll} (h : ShowsRows s home readOnly r) :
    ShowsEither s (.relational readOnly) r

variable {s : Session} {m : Medium} {r : Roll}

theorem showsEither_new {settings : StoreSettings} {tree : Tree} {store : Store}
    (h : (start settings tree).session.store = some store) (hnew : store.IsNew) :
    ShowsEither (start settings tree).session store.medium .new := by
  cases hnew with
  | embedded path home => exact .tables (shows_start h ⟨rfl, Embedded.keeps_empty, Roll.fit_new⟩)
  | relational home readOnly => exact .rows (showsRows_start h ⟨rfl, Relational.keeps_new⟩ Roll.fit_new)

/-- A store that is opened and holds what another one holds shows the same users. -/
theorem showsEither_start {settings : StoreSettings} {tree : Tree} {store store' : Store}
    (h : (start settings tree).session.store = some store') (hshows : store.Shows r) (hfit : r.Fit)
    (hcontent : store'.content = store.content) :
    ShowsEither (start settings tree).session store'.medium { r with isOpen := true } := by
  cases store' with
  | embedded store' home =>
    obtain ⟨path, isOpen, tables⟩ := store'
    cases store with
    | relational => cases hcontent
    | embedded store home' =>
      obtain rfl : isOpen = true := Opening.isOpen_of_ok (result_of_start h)
      obtain rfl : tables = store.shared.tables := by
        obtain ⟨users, index⟩ := tables
        obtain ⟨path', isOpen', users', index'⟩ := store
        cases hcontent
        rfl
      exact .tables (shows_start h ⟨rfl, hshows.keeps, hfit⟩)
  | relational store' home =>
    cases store with
    | embedded => cases hcontent
    | relational store home' =>
      have hopen : store'.shared.isOpen = true := Opening.isOpen_of_ok (result_of_start h)
      have hkeeps : Relational.Keeps store'.shared.database r.entries :=
        Content.relational.inj hcontent ▸ hshows.keeps
      exact .rows (showsRows_start h ⟨hopen, hkeeps⟩ hfit)

namespace ShowsEither

variable {r' : Roll} {u v : User} {email : String}

theorem store (h : ShowsEither s m r) : ∃ store, s.store = some store ∧ store.Shows r ∧ store.medium = m := by
  cases h with
  | tables h =>
    obtain ⟨shared, hs, hr⟩ := h.store
    exact ⟨_, hs, hr, rfl⟩
  | rows h =>
    obtain ⟨shared, hs, hr, hreadOnly⟩ := h.store
    exact ⟨_, hs, hr, congrArg Medium.relational hreadOnly⟩

theorem fit (h : ShowsEither s m r) : r.Fit := by
  cases h with
  | tables h =>
    obtain ⟨shared, -, hr⟩ := h.store
    exact hr.fit
  | rows h => exact h.fit

theorem after (h : ShowsEither s m r) (move : Move) : ∃ r, ShowsEither (s.after move) m r := by
  cases h with
  | tables h =>
    obtain ⟨r, h⟩ := h.after move
    exact ⟨r, .tables h⟩
  | rows h =>
    obtain ⟨r, h⟩ := h.after move
    exact ⟨r, .rows h⟩

/-- A request is answered as the roll says. -/
theorem perform (h : ShowsEither s m r) (q : Request) :
    (s.perform q).answer = some (r.serveOn m q).1 ∧ ShowsEither (s.perform q).session m (r.serveOn m q).2 := by
  cases h with
  | tables h =>
    rw [Roll.serveOn_embedded]
    obtain ⟨hanswer, h⟩ := h.perform q
    exact ⟨hanswer, .tables h⟩
  | rows h =>
    obtain ⟨hanswer, h⟩ := h.perform q
    exact ⟨hanswer, .rows h⟩

theorem performed {q : Request} {a : Except StoreError Answer} (h : ShowsEither s m r)
    (hq : r.serveOn m q = (a, r')) : (s.perform q).answer = some a ∧ ShowsEither (s.perform q).session m r' := by
  have hserved := h.perform q
  rw [hq] at hserved
  exact hserved

/-- Who shows a user is open and has it. -/
theorem of_user (h : ShowsEither s m r) (hv : (s.perform (.user email)).answer = some (.ok (.user v))) :
    r.isOpen = true ∧ ∃ x, r.entries.find? email = some x ∧ v = x.user email := by
  rw [(h.perform _).1, Roll.serveOn_user] at hv
  exact Roll.of_serve_user (Option.some.inj hv)

/-- A user that was created is shown, with its roles in order. -/
theorem user_of_create (h : ShowsEither s m r) (hopen : r.isOpen = true) (hu : u.unfit? = none)
    (hnew : r.entries.has u.email = false) (hcreating : m.creating? u.normalized.roles = none) :
    ((s.perform (.create u)).session.perform (.user u.email)).answer = some (.ok (.user u.normalized)) := by
  have hcreate := Roll.serveOn_create (m := m) hopen hu hnew
  rw [hcreating] at hcreate
  have hcreated := (h.performed hcreate).2
  have hfound : (r.put u).entries.find? u.email = some (.ofUser u) := by simp [Roll.put, KeyTable.find?_insert]
  have hemail : unfitEmail? u.email = none := (User.unfit?_eq_none.1 hu).1
  rw [(hcreated.perform _).1, Roll.serveOn_user, Roll.serve_user (r := r.put u) hopen hemail, hfound]
  rfl

theorem backend?_eq (h : ShowsEither s m r) : s.backend? = some m.backend := by
  obtain ⟨store, hs, -, rfl⟩ := h.store
  rw [backend?, hs, Option.map_some, Store.backend_eq]

/-- Sessions that show the same roll hold the same, if their stores are of one kind. -/
theorem stored_eq {s' : Session} {m' : Medium} (h : ShowsEither s m r) (h' : ShowsEither s' m' r)
    (hbackend : m.backend = m'.backend) : s.stored = s'.stored := by
  obtain ⟨store, hs, hshows, rfl⟩ := h.store
  obtain ⟨store', hs', hshows', rfl⟩ := h'.store
  rw [← Store.backend_eq, ← Store.backend_eq] at hbackend
  rw [stored, stored, hs, hs']
  exact congrArg some (hshows.content_eq hshows' rfl hbackend)

end ShowsEither

/-- In every session that comes about the store shows a roll. -/
theorem Reachable.shows (h : Reachable s) : ∃ m r, ShowsEither s m r := by
  induction h with
  | start settings tree h hnew => exact ⟨_, _, showsEither_new h hnew⟩
  | after h move ih =>
    obtain ⟨m, r, h⟩ := ih
    obtain ⟨r, h⟩ := h.after move
    exact ⟨m, r, h⟩
  | resumed h settings hfound ih =>
    obtain ⟨m, r, h⟩ := ih
    obtain ⟨store, hs, hshows, -⟩ := h.store
    rw [stored, stored, hs, Option.map_some, Option.map_eq_some_iff] at hfound
    obtain ⟨store', hs', hcontent⟩ := hfound
    exact ⟨_, _, showsEither_start hs' hshows h.fit hcontent⟩

end Session

end Roster
