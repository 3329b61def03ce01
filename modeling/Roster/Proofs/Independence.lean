import Roster.Proofs.Embedded.Phases
import Roster.Proofs.Reachable

/-!
# Mutations of different users

What a mutation does depends on the entry of its email alone, and it touches no other entry. So two
mutations of different users can be made in either order. In the tables of an embedded store all users
share one index; there it matters that no key of it can be read as a role of two emails.
-/

namespace Roster

/-! ## On the roll -/

namespace Roll

variable {m : Medium} {r r' : Roll} {q q' : Request} {email email' : String}

/-- A mutation neither closes nor opens anything. -/
theorem serve_isOpen (hq : q.mutated? = some email) (r : Roll) : (r.serve q).2.isOpen = r.isOpen := by
  have hbecomes := r.becomes q
  generalize (r.serve q).2 = r' at hbecomes
  cases hbecomes with
  | same | created | updated | dropped => rfl
  | closed => cases hq

/-- A mutation touches no other entry than that of its email. -/
theorem find?_serve_of_ne (hq : q.mutated? = some email) (hne : email' ≠ email) (r : Roll) :
    (r.serve q).2.entries.find? email' = r.entries.find? email' := by
  have hbecomes := r.becomes q
  generalize (r.serve q).2 = r' at hbecomes
  cases hbecomes with
  | same => rfl
  | created | updated =>
    cases hq
    rw [put, KeyTable.find?_insert, if_neg hne]
  | dropped =>
    cases hq
    rw [drop, KeyTable.find?_erase, if_neg hne]
  | closed => cases hq

/-- Rolls that say the same of an email answer its mutations alike, and say the same of it afterwards. -/
theorem serve_congr (hq : q.mutated? = some email) (hopen : r.isOpen = r'.isOpen)
    (hfind : r.entries.find? email = r'.entries.find? email) :
    (r.serve q).1 = (r'.serve q).1 ∧
      (r.serve q).2.entries.find? email = (r'.serve q).2.entries.find? email := by
  unfold serve
  cases answerAtOnce? q with
  | some a => exact ⟨rfl, hfind⟩
  | none =>
  rw [hopen]
  cases r'.isOpen with
  | false => exact ⟨rfl, hfind⟩
  | true =>
  simp only [if_true]
  cases q with
  | create u | update u =>
    cases hq
    simp only [answer, hfind]
    cases hx : r'.entries.find? u.email <;> simp [put, KeyTable.find?_insert, hfind, hx]
  | delete email =>
    cases hq
    simp only [answer, hfind]
    cases hx : r'.entries.find? email <;> simp [drop, KeyTable.find?_erase, hfind, hx]
  | user | users | usersByRole | liveRoles | memberCount | close => cases hq

/-! ### On a medium -/

theorem serveOn_isOpen (hq : q.mutated? = some email) (m : Medium) (r : Roll) :
    (r.serveOn m q).2.isOpen = r.isOpen := by
  rcases serveOn_cases m r q with hsame | ⟨e, -, -, -, he⟩
  · rw [hsame, serve_isOpen hq]
  · rw [he]

theorem find?_serveOn_of_ne (hq : q.mutated? = some email) (hne : email' ≠ email) (m : Medium) (r : Roll) :
    (r.serveOn m q).2.entries.find? email' = r.entries.find? email' := by
  rcases serveOn_cases m r q with hsame | ⟨e, -, -, -, he⟩
  · rw [hsame, find?_serve_of_ne hq hne]
  · rw [he]

/-- Why a medium refuses a mutation depends on the entry of its email alone. -/
theorem refusal?_congr (hq : q.mutated? = some email) (hfind : r.entries.find? email = r'.entries.find? email) :
    m.refusal? r q = m.refusal? r' q := by
  cases q with
  | create u =>
    cases hq
    rw [Medium.refusal?, Medium.refusal?, KeyTable.has_eq, KeyTable.has_eq, hfind]
  | update u =>
    cases hq
    rw [Medium.refusal?, Medium.refusal?, hfind]
  | delete email => rfl
  | user | users | usersByRole | liveRoles | memberCount | close => cases hq

theorem serveOn_congr (hq : q.mutated? = some email) (hopen : r.isOpen = r'.isOpen)
    (hfind : r.entries.find? email = r'.entries.find? email) :
    (r.serveOn m q).1 = (r'.serveOn m q).1 ∧
      (r.serveOn m q).2.entries.find? email = (r'.serveOn m q).2.entries.find? email := by
  have hserve := serve_congr hq hopen hfind
  cases hat : answerAtOnce? q with
  | some a =>
    rw [serveOn, serveOn, hat]
    exact ⟨rfl, hfind⟩
  | none =>
  cases hopen' : r'.isOpen with
  | false => rwa [serveOn_eq_serve (hopen.trans hopen'), serveOn_eq_serve hopen']
  | true =>
  rw [serveOn_eq_answerOn hat (hopen.trans hopen'), serveOn_eq_answerOn hat hopen', answerOn, answerOn,
    refusal?_congr hq hfind]
  rw [serve_eq_answer hat (hopen.trans hopen'), serve_eq_answer hat hopen'] at hserve
  cases m.refusal? r' q with
  | some e => exact ⟨rfl, hfind⟩
  | none => exact hserve

/-- A mutation is answered alike before and after one of another user. -/
theorem serveOn_after (hq : q.mutated? = some email) (hq' : q'.mutated? = some email') (hne : email ≠ email')
    (m : Medium) (r : Roll) :
    ((r.serveOn m q').2.serveOn m q).1 = (r.serveOn m q).1 ∧
      ((r.serveOn m q').2.serveOn m q).2.entries.find? email = (r.serveOn m q).2.entries.find? email :=
  serveOn_congr hq (serveOn_isOpen hq' m r) (find?_serveOn_of_ne hq' hne m r)

/-- Mutations of two users lead to one roll, whichever comes first. -/
theorem serveOn_comm (hq : q.mutated? = some email) (hq' : q'.mutated? = some email') (hne : email ≠ email')
    (m : Medium) (r : Roll) :
    ((r.serveOn m q).2.serveOn m q').2 = ((r.serveOn m q').2.serveOn m q).2 := by
  have hentries : ((r.serveOn m q).2.serveOn m q').2.entries = ((r.serveOn m q').2.serveOn m q).2.entries := by
    refine KeyTable.ext_find? fun key => ?_
    by_cases hk : key = email
    · subst hk
      rw [find?_serveOn_of_ne hq' hne, (serveOn_after hq hq' hne m r).2]
    · by_cases hk' : key = email'
      · subst hk'
        rw [find?_serveOn_of_ne hq hk, (serveOn_after hq' hq hne.symm m r).2]
      · rw [find?_serveOn_of_ne hq' hk', find?_serveOn_of_ne hq hk, find?_serveOn_of_ne hq hk,
          find?_serveOn_of_ne hq' hk']
  have hopen : ((r.serveOn m q).2.serveOn m q').2.isOpen = ((r.serveOn m q').2.serveOn m q).2.isOpen := by
    rw [serveOn_isOpen hq', serveOn_isOpen hq, serveOn_isOpen hq, serveOn_isOpen hq']
  exact congrArg₂ Roll.mk hopen hentries

end Roll

/-! ## In the stores -/

namespace Embedded

/-- The tables say the same of everybody but one email: the other records are equal, and so are all keys
of the index that do not split into a role and this email. -/
structure Tables.SameElsewhere (email : String) (t t' : Tables) : Prop where
  users (email' : String) (h : email' ≠ email) : t.users.find? email' = t'.users.find? email'
  index (key : Bytes) (h : ∀ role, splitKey? key ≠ some (role, email)) :
    t.index.find? key = t'.index.find? key

theorem Shows.sameElsewhere {shared shared' : Shared} {r r' : Roll} {email : String} (h : Shows shared r)
    (h' : Shows shared' r')
    (hsame : ∀ email', email' ≠ email → r'.entries.find? email' = r.entries.find? email') :
    shared.tables.SameElsewhere email shared'.tables where
  users email' he := by rw [h.keeps.users, h'.keeps.users, hsame email' he]
  index key hkey := by
    -- a key of the email would split into the role and the email, because no role has a separator
    have hno {r : Roll} (hfit : r.Fit) (x : Profile) (hx : r.entries.find? email = some x) (role : String)
        (hrole : role ∈ x.roles) : key ≠ memberKey role email := by
      rintro rfl
      exact hkey role (splitKey?_memberKey (separable_of_fit hfit email x hx role hrole))
    refine Option.ext fun value => ?_
    rw [h.keeps.index, h'.keeps.index, isMember_congr hsame (hno h.fit) (hno h'.fit)]

end Embedded

namespace Relational

/-- The rows of everybody but one email are the same. -/
structure Database.SameElsewhere (email : String) (db db' : Database) : Prop where
  users (email' : String) (h : email' ≠ email) : db.users.find? email' = db'.users.find? email'
  roles (email' role : String) (h : email' ≠ email) : db.roles.has (email', role) = db'.roles.has (email', role)

theorem Shows.sameElsewhere {shared shared' : Shared} {r r' : Roll} {email : String} (h : Shows shared r)
    (h' : Shows shared' r')
    (hsame : ∀ email', email' ≠ email → r'.entries.find? email' = r.entries.find? email') :
    shared.database.SameElsewhere email shared'.database where
  users email' he := by rw [h.keeps.users, h'.keeps.users, hsame email' he]
  roles email' role he := by rw [Bool.eq_iff_iff, h.keeps.roles, h'.keeps.roles, hsame email' he]

end Relational

namespace Store

/-- Two stores of one kind hold the same of everybody but one email. -/
def SameElsewhere (email : String) : Store → Store → Prop
  | embedded s _, embedded s' _ => s.shared.tables.SameElsewhere email s'.shared.tables
  | relational s _, relational s' _ => s.shared.database.SameElsewhere email s'.shared.database
  | _, _ => False

/-- A mutation leaves all that a store holds of others. -/
theorem Shows.sameElsewhere {s : Store} {r : Roll} (h : s.Shows r) {q : Request} {email : String}
    (hq : q.mutated? = some email) : s.SameElsewhere email (s.perform q).state := by
  have hafter := (h.perform q).2.1
  have hsame (email' : String) (hne : email' ≠ email) := Roll.find?_serveOn_of_ne hq hne s.medium r
  cases s with
  | embedded s home => exact Embedded.Shows.sameElsewhere h hafter hsame
  | relational s home => exact Relational.Shows.sameElsewhere h hafter hsame

end Store

namespace Session

open Files Settings

variable {s : Session}

/-- Mutations of different users, whichever comes first, get the same answers and leave the same content,
with either kind of store and in every session that has come about; and a mutation leaves the records,
index entries and role rows of all other users as they were. -/
theorem mutations_independent (hs : Reachable s) {q q' : Request} {email email' : String}
    (hq : q.mutated? = some email) (hq' : q'.mutated? = some email') (hne : email ≠ email') :
    let first := s.perform q
    let first' := s.perform q'
    let second := first'.session.perform q
    let second' := first.session.perform q'
    second.answer = first.answer ∧ second'.answer = first'.answer ∧
      second'.session.stored = second.session.stored ∧
      ∃ store store', s.store = some store ∧ first.session.store = some store' ∧
        store.SameElsewhere email store' := by
  intro first first' second second'
  obtain ⟨m, r, h⟩ := hs.shows
  obtain ⟨hfirst, hshows⟩ := h.perform q
  obtain ⟨hfirst', hshows'⟩ := h.perform q'
  obtain ⟨hsecond, hend⟩ := hshows'.perform q
  obtain ⟨hsecond', hend'⟩ := hshows.perform q'
  refine ⟨?_, ?_, ?_, ?_⟩
  · rw [hsecond, hfirst, (Roll.serveOn_after hq hq' hne m r).1]
  · rw [hsecond', hfirst', (Roll.serveOn_after hq' hq hne.symm m r).1]
  · rw [Roll.serveOn_comm hq hq' hne] at hend'
    exact hend'.stored_eq hend rfl
  · obtain ⟨store, hstore, hr, -⟩ := h.store
    refine ⟨store, (store.perform q).state, hstore, ?_, hr.sameElsewhere hq⟩
    rw [show first = s.perform q from rfl, perform_eq hstore]

/-- An email that begins like another one and is the name of a role too, in stores of both kinds. -/
theorem mutations_independent_of_prefix :
    let ann : User := ⟨"ann", "Ann", ["anna", "a"]⟩
    let embedded := (start { StoreSettings.default with url := "redb://roster.redb" } .empty).session.after
      (.request (.create ann))
    let relational := (start { StoreSettings.default with url := "sqlite://roster.db?mode=rwc" } .empty).session.after
      (.request (.create ann))
    let q : Request := .update ⟨"ann", "", ["a", "b"]⟩
    let q' : Request := .create ⟨"anna", "", ["ann", "a"]⟩
    ((embedded.perform q).session.perform q').session.stored =
        ((embedded.perform q').session.perform q).session.stored ∧
      ((relational.perform q).session.perform q').answer = (relational.perform q').answer ∧
      ∃ store store', embedded.store = some store ∧ (embedded.perform q).session.store = some store' ∧
        store.SameElsewhere "ann" store' := by
  intro ann embedded relational q q'
  have hempty := Store.IsNew.embedded "roster.redb" ["roster.redb"]
  have hrows := Store.IsNew.relational (.file ["roster.db"]) false
  have hembedded : Reachable embedded := .after (.start _ _ rfl hempty) _
  have hrelational : Reachable relational := .after (.start _ _ rfl hrows) _
  have hq : q.mutated? = some "ann" := rfl
  have hq' : q'.mutated? = some "anna" := rfl
  obtain ⟨-, -, hstored, hothers⟩ := mutations_independent hembedded hq hq' (by decide)
  obtain ⟨-, hanswer, -⟩ := mutations_independent hrelational hq hq' (by decide)
  exact ⟨hstored, hanswer, hothers⟩

end Session

end Roster
