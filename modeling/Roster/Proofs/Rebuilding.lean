import Roster.Proofs.Reachable

/-!
# Updating and building anew

An update only touches what changes: a store of either kind takes away the roles that go and adds those
that come. The content afterwards is nevertheless the one that deleting the user and creating it anew
would leave, because a store has only one way of holding a roll. So it does not matter either what was
said of the user before. That is where all of this is granted: a database refuses to add more roles at
once than a statement has parameters for, so it can take an update that it would not build anew.
-/

namespace Roster

open Files Settings

namespace Roll

variable {r r' : Roll} {u v : User} {email : String}

/-! ## Rolls that differ in one entry -/

/-- The rolls have the same users, and at most one of them has another name or other roles. -/
structure AgreeBut (email : String) (r r' : Roll) : Prop where
  isOpen : r.isOpen = r'.isOpen
  has (email' : String) : r.entries.has email' = r'.entries.has email'
  others (email' : String) (h : email' ≠ email) : r.entries.find? email' = r'.entries.find? email'

namespace AgreeBut

theorem refl (r : Roll) : AgreeBut email r r := ⟨rfl, fun _ => rfl, fun _ _ => rfl⟩

theorem symm (h : AgreeBut email r r') : AgreeBut email r' r where
  isOpen := h.isOpen.symm
  has email' := (h.has email').symm
  others email' he := (h.others email' he).symm

theorem trans {r'' : Roll} (h : AgreeBut email r r') (h' : AgreeBut email r' r'') : AgreeBut email r r'' where
  isOpen := h.isOpen.trans h'.isOpen
  has email' := (h.has email').trans (h'.has email')
  others email' he := (h.others email' he).trans (h'.others email' he)

theorem put (h : AgreeBut email r r') (u : User) : AgreeBut email (r.put u) (r'.put u) where
  isOpen := h.isOpen
  has email' := by simp only [Roll.put, KeyTable.has_insert, h.has]
  others email' he := by simp only [Roll.put, KeyTable.find?_insert, h.others email' he]

theorem drop (h : AgreeBut email r r') (gone : String) : AgreeBut email (r.drop gone) (r'.drop gone) where
  isOpen := h.isOpen
  has email' := by simp only [Roll.drop, KeyTable.has_erase, h.has]
  others email' he := by simp only [Roll.drop, KeyTable.find?_erase, h.others email' he]

/-- What a roll grants and what it refuses does not depend on names and roles. -/
theorem serve (h : AgreeBut email r r') (q : Request) : AgreeBut email (r.serve q).2 (r'.serve q).2 := by
  unfold Roll.serve
  cases answerAtOnce? q with
  | some a => exact h
  | none =>
  rw [← h.isOpen]
  cases r.isOpen with
  | false => exact h
  | true =>
  simp only [if_true, answer_snd, ← h.has]
  cases q with
  | create u =>
    dsimp only
    split
    · exact h
    · exact h.put u
  | update u =>
    dsimp only
    split
    · exact h.put u
    · exact h
  | delete email' =>
    dsimp only
    split
    · exact h.drop email'
    · exact h
  | close => exact ⟨rfl, h.has, h.others⟩
  | user email' | users | usersByRole role | liveRoles | memberCount => exact h

/-- The entry in which they may differ is lost when another one takes its place. -/
theorem put_eq (h : AgreeBut u.email r r') : r.put u = r'.put u := by
  have hentries : (r.put u).entries = (r'.put u).entries := by
    refine KeyTable.ext_find? fun email => ?_
    simp only [Roll.put, KeyTable.find?_insert]
    split
    · rfl
    · exact h.others email ‹_›
  calc r.put u = ⟨r.isOpen, (r.put u).entries⟩ := rfl
    _ = ⟨r'.isOpen, (r'.put u).entries⟩ := by rw [h.isOpen, hentries]
    _ = r'.put u := rfl

end AgreeBut

/-- Who was there and is put in again is all that changes. -/
theorem agreeBut_put (hthere : r.entries.has u.email = true) : AgreeBut u.email (r.put u) r where
  isOpen := rfl
  has email := by
    rw [put, KeyTable.has_insert]
    by_cases he : email = u.email
    · simp [he, hthere]
    · simp [he]
  others email he := by simp [put, KeyTable.find?_insert, he]

/-- An update changes at most the entry of its user, be it granted or refused. -/
theorem agreeBut_update (m : Medium) (r : Roll) (u : User) :
    AgreeBut u.email (r.serveOn m (.update u)).2 r := by
  rcases serveOn_cases m r (.update u) with hsame | ⟨e, -, -, -, he⟩
  · rw [hsame]
    have hbecomes := r.becomes (.update u)
    generalize (r.serve (.update u)).2 = r' at hbecomes
    cases hbecomes with
    | same => exact .refl _
    | updated _ hthere => exact agreeBut_put hthere
  · rw [he]
    exact .refl _

/-- The one entry only matters to a medium when it is updated itself. -/
theorem AgreeBut.refusal?_eq (h : AgreeBut email r r') (m : Medium) {q : Request}
    (hq : ∀ u, q = .update u → u.email ≠ email) : m.refusal? r q = m.refusal? r' q := by
  cases q with
  | create u => rw [Medium.refusal?, Medium.refusal?, h.has]
  | update u => rw [Medium.refusal?, Medium.refusal?, h.others u.email (hq u rfl)]
  | delete email' | user email' | users | usersByRole role | liveRoles | memberCount | close => rfl

/-- Whatever is asked, rolls on one medium that differ in one entry go on differing at most there. -/
theorem AgreeBut.serveOn (h : AgreeBut email r r') (m : Medium) (q : Request) :
    AgreeBut email (r.serveOn m q).2 (r'.serveOn m q).2 := by
  by_cases hq : ∃ u, q = .update u ∧ u.email = email
  · -- the medium may grant the update in one place and refuse it in the other
    obtain ⟨u, rfl, rfl⟩ := hq
    exact (agreeBut_update m r u).trans (h.trans (agreeBut_update m r' u).symm)
  · have hrefusal := h.refusal?_eq m fun u hu he => hq ⟨u, hu, he⟩
    cases hr : m.refusal? r q with
    | none =>
      rw [serveOn_of_none hr, serveOn_of_none (hrefusal ▸ hr)]
      exact h.serve q
    | some e =>
      rw [serveOn_snd_of_some hr, serveOn_snd_of_some (hrefusal ▸ hr)]
      exact h

end Roll

namespace Session

variable {s s' : Session} {m m' : Medium} {r r' : Roll} {u v : User} {email : String}

namespace ShowsEither

/-! ## What is answered -/

theorem answer_update {x : Profile} (h : ShowsEither s m r) (hopen : r.isOpen = true) (hu : u.unfit? = none)
    (hx : r.entries.find? u.email = some x) : (s.perform (.update u)).answer =
      some (Medium.verdict (m.updating? (some x.roles) u.normalized.roles)) := by
  rw [(h.perform _).1, Roll.serveOn_update hopen hu, hx, Option.map_some]
  cases m.updating? (some x.roles) u.normalized.roles <;> rfl

theorem answer_delete (h : ShowsEither s m r) (hopen : r.isOpen = true) (he : unfitEmail? email = none)
    (hthere : r.entries.has email = true) :
    (s.perform (.delete email)).answer = some (Medium.verdict m.deleting?) := by
  obtain ⟨x, hx⟩ := KeyTable.has_iff_exists.1 hthere
  rw [(h.perform _).1, Roll.serveOn_delete hopen he, hx]
  cases m.deleting? <;> rfl

theorem answer_create (h : ShowsEither s m r) (hopen : r.isOpen = true) (hu : u.unfit? = none)
    (hnew : r.entries.has u.email = false) :
    (s.perform (.create u)).answer = some (Medium.verdict (m.creating? u.normalized.roles)) := by
  rw [(h.perform _).1, Roll.serveOn_create hopen hu hnew]
  cases m.creating? u.normalized.roles <;> rfl

/-! ## What is left -/

/-- What is granted leaves what the roll makes of it. -/
theorem granted {q : Request} {a : Answer} (h : ShowsEither s m r) (hok : (s.perform q).answer = some (.ok a)) :
    (r.serve q).1 = .ok a ∧ ShowsEither (s.perform q).session m (r.serve q).2 := by
  obtain ⟨hanswer, hshows⟩ := h.perform q
  have hserved : (r.serveOn m q).1 = .ok a := Option.some.inj (hanswer.symm.trans hok)
  have hsame := Roll.serveOn_of_ok hserved
  rw [hsame] at hserved hshows
  exact ⟨hserved, hshows⟩

theorem of_update (h : ShowsEither s m r) (hok : (s.perform (.update u)).answer = some (.ok .done)) :
    (r.isOpen = true ∧ u.unfit? = none ∧ r.entries.has u.email = true) ∧
      ShowsEither (s.perform (.update u)).session m (r.put u) := by
  obtain ⟨hanswer, hshows⟩ := h.granted hok
  obtain ⟨hopen, hu, hthere⟩ := Roll.of_serve_update hanswer
  rw [Roll.serve_update hopen hu hthere] at hshows
  exact ⟨⟨hopen, hu, hthere⟩, hshows⟩

/-- A user that is there is only created when it has been deleted. -/
theorem of_rebuild (h : ShowsEither s m r) (hopen : r.isOpen = true) (hu : u.unfit? = none)
    (hthere : r.entries.has u.email = true)
    (hok : ((s.perform (.delete u.email)).session.perform (.create u)).answer = some (.ok .done)) :
    ShowsEither ((s.perform (.delete u.email)).session.perform (.create u)).session m (r.put u) := by
  have hemail : unfitEmail? u.email = none := (User.unfit?_eq_none.1 hu).1
  obtain ⟨x, hx⟩ := KeyTable.has_iff_exists.1 hthere
  have hserved := Roll.serveOn_delete (m := m) hopen hemail
  rw [hx] at hserved
  cases hd : m.deleting? with
  | some e =>
    -- still there, it is refused
    rw [hd] at hserved
    rw [((h.performed hserved).2.perform _).1, Roll.serveOn_create_there hopen hu hthere] at hok
    cases hok
  | none =>
    rw [hd] at hserved
    have hshows := ((h.performed hserved).2.granted hok).2
    rwa [Roll.serve_create (r := r.drop u.email) hopen hu (r.has_drop _), Roll.put_drop] at hshows

/-- An update leaves the same content wherever at most the updated entry was different. -/
theorem update_eq (h : ShowsEither s m r) (h' : ShowsEither s' m' r') (hagree : Roll.AgreeBut u.email r r')
    (hbackend : m.backend = m'.backend) (hok : (s.perform (.update u)).answer = some (.ok .done))
    (hok' : (s'.perform (.update u)).answer = some (.ok .done)) :
    (s.perform (.update u)).session.stored = (s'.perform (.update u)).session.stored := by
  have hshows := (h.of_update hok).2
  rw [hagree.put_eq] at hshows
  exact hshows.stored_eq (h'.of_update hok').2 hbackend

/-- Whatever is asked, two sessions that differ in one entry go on differing at most there. -/
theorem performAll (h : ShowsEither s m r) (h' : ShowsEither s' m r') (hagree : Roll.AgreeBut email r r')
    (qs : List Request) :
    ∃ r r', ShowsEither (s.performAll qs).session m r ∧ ShowsEither (s'.performAll qs).session m r' ∧
      Roll.AgreeBut email r r' := by
  induction qs generalizing s s' r r' with
  | nil => exact ⟨r, r', h, h', hagree⟩
  | cons q qs ih => exact ih (h.perform q).2 (h'.perform q).2 (hagree.serveOn m q)

/-- So an earlier update leaves no trace, whatever was asked in between. -/
theorem update_overwrites (h : ShowsEither s m r) (hemail : v.email = u.email) (qs : List Request)
    (hlater : ((s.performAll qs).session.perform (.update u)).answer = some (.ok .done))
    (hboth : m = .embedded ∨
      ((s.performAll (.update v :: qs)).session.perform (.update u)).answer = some (.ok .done)) :
    ((s.performAll (.update v :: qs)).session.perform (.update u)).answer = some (.ok .done) ∧
      ((s.performAll (.update v :: qs)).session.perform (.update u)).session.stored =
        ((s.performAll qs).session.perform (.update u)).session.stored := by
  -- with and without the earlier update, at most that one entry is different until the later one
  have hagree : Roll.AgreeBut u.email (r.serveOn m (.update v)).2 r := hemail ▸ Roll.agreeBut_update m r v
  obtain ⟨r₁, r₂, h₁, h₂, hagree₁₂⟩ := (h.perform (.update v)).2.performAll h hagree qs
  have hearlier : ((s.performAll (.update v :: qs)).session.perform (.update u)).answer = some (.ok .done) := by
    rcases hboth with rfl | hearlier
    · obtain ⟨⟨hopen, hu, hthere⟩, -⟩ := h₂.of_update hlater
      have hserved : r₁.serveOn .embedded (.update u) = (.ok .done, r₁.put u) := by
        rw [Roll.serveOn_embedded,
          Roll.serve_update (hagree₁₂.isOpen.trans hopen) hu ((hagree₁₂.has _).trans hthere)]
      exact (h₁.performed hserved).1
    · exact hearlier
  exact ⟨hearlier, h₁.update_eq h₂ hagree₁₂ rfl hearlier hlater⟩

/-! ## What is seen -/

/-- Nobody has an email that is unfit. -/
theorem find?_unfit (h : ShowsEither s m r) {reason : Unfit} (he : unfitEmail? email = some reason) :
    r.entries.find? email = none := by
  cases hx : r.entries.find? email with
  | none => rfl
  | some x =>
    have hfine := (User.unfit?_eq_none.1 (h.fit email x hx)).1
    rw [Profile.user_email, he] at hfine
    cases hfine

/-- Sessions that show the same users, but for one that both have, differ at most there. -/
theorem agreeBut (h : ShowsEither s m r) (h' : ShowsEither s' m' r') (hopen : r.isOpen = true)
    (hopen' : r'.isOpen = true) (hthere : r.entries.has email = true) (hthere' : r'.entries.has email = true)
    (hothers : ∀ email', email' ≠ email →
      (s.perform (.user email')).answer = (s'.perform (.user email')).answer) : Roll.AgreeBut email r r' := by
  have hfind (email' : String) (hne : email' ≠ email) : r.entries.find? email' = r'.entries.find? email' := by
    cases he : unfitEmail? email' with
    | some reason => rw [h.find?_unfit he, h'.find?_unfit he]
    | none =>
      -- of a fit email the answer says all there is in its entry
      have hanswer := hothers email' hne
      rw [(h.perform _).1, (h'.perform _).1, Roll.serveOn_user, Roll.serveOn_user, Roll.serve_user hopen he,
        Roll.serve_user hopen' he] at hanswer
      cases hx : r.entries.find? email' <;> cases hx' : r'.entries.find? email' <;> simp [hx, hx'] at hanswer
      · rfl
      · rw [Profile.user_inj.1 hanswer]
  refine ⟨hopen.trans hopen'.symm, fun email' => ?_, hfind⟩
  by_cases he : email' = email
  · rw [he, hthere, hthere']
  · rw [KeyTable.has_eq, KeyTable.has_eq, hfind email' he]

end ShowsEither

/-- What a database holds says who is there. -/
theorem ShowsRows.has_eq {home home' : Relational.Home} {readOnly readOnly' : Bool}
    (h : ShowsRows s home readOnly r) (h' : ShowsRows s' home' readOnly' r') (hstored : s.stored = s'.stored)
    (email : String) : r.entries.has email = r'.entries.has email := by
  obtain ⟨shared, hs, hshows, -⟩ := h.store
  obtain ⟨shared', hs', hshows', -⟩ := h'.store
  rw [stored, stored, hs, hs'] at hstored
  have hdb : shared.database = shared'.database := Content.relational.inj (Option.some.inj hstored)
  rw [KeyTable.has_eq, KeyTable.has_eq, ← hshows.keeps.has_users, ← hshows'.keeps.has_users, hdb]

/-- A database that takes an update, but not all of the roles at once, loses a user that is built anew. -/
theorem ShowsRows.rebuild_loses {home : Relational.Home} {x : Profile} {e : StoreError}
    (h : ShowsRows s home false r) (hopen : r.isOpen = true) (hu : u.unfit? = none)
    (hx : r.entries.find? u.email = some x) (hsmall : Medium.syncing? x.roles u.normalized.roles = none)
    (hgreat : Medium.syncing? [] u.normalized.roles = some e) :
    (s.perform (.update u)).answer = some (.ok .done) ∧ (s.perform (.delete u.email)).answer = some (.ok .done) ∧
      ((s.perform (.delete u.email)).session.perform (.create u)).answer = some (.error e) ∧
      (s.perform (.update u)).session.stored ≠
        ((s.perform (.delete u.email)).session.perform (.create u)).session.stored := by
  have hemail : unfitEmail? u.email = none := (User.unfit?_eq_none.1 hu).1
  have hthere : r.entries.has u.email = true := KeyTable.has_iff_exists.2 ⟨x, hx⟩
  have hupdate : r.serveOn (.relational false) (.update u) = (.ok .done, r.put u) := by
    rw [Roll.serveOn_update hopen hu, hx, Option.map_some, Medium.updating?, hsmall]
  have hdelete : r.serveOn (.relational false) (.delete u.email) = (.ok .done, r.drop u.email) := by
    rw [Roll.serveOn_delete hopen hemail, hx]
    rfl
  have hcreate : (r.drop u.email).serveOn (.relational false) (.create u) = (.error e, r.drop u.email) := by
    rw [Roll.serveOn_create (r := r.drop u.email) hopen hu (r.has_drop _), Medium.creating?, hgreat]
  obtain ⟨hupdated, hafter⟩ := h.perform (.update u)
  obtain ⟨hdeleted, hbetween⟩ := h.perform (.delete u.email)
  rw [hupdate] at hupdated hafter
  rw [hdelete] at hdeleted hbetween
  obtain ⟨hrefused, hlost⟩ := hbetween.perform (.create u)
  rw [hcreate] at hrefused hlost
  refine ⟨hupdated, hdeleted, hrefused, fun hstored => ?_⟩
  have hhas := hafter.has_eq hlost hstored u.email
  simp [Roll.put, KeyTable.has_insert] at hhas

/-- An update of a user who is there is granted or refused by the medium alone, and so are deleting the user
and creating it anew; a medium that holds so many roles grants all of them. Both ways leave the same
content, with either kind of store and in every session that has come about. The content does not depend
on what was said of the user before, nor on an earlier update, whatever was asked since. -/
theorem update_rebuilds (hs : Reachable s) {store : Store} (hstore : s.store = some store) {old : User}
    (hu : u.unfit? = none) (hold : (s.perform (.user u.email)).answer = some (.ok (.user old))) :
    let m := store.medium
    let updated := s.perform (.update u)
    let deleted := s.perform (.delete u.email)
    let rebuilt := deleted.session.perform (.create u)
    (updated.answer = some (Medium.verdict (m.updating? (some old.roles) u.normalized.roles)) ∧
        deleted.answer = some (Medium.verdict m.deleting?) ∧
        (m.deleting? = none → rebuilt.answer = some (Medium.verdict (m.creating? u.normalized.roles)))) ∧
      (m.Holds old.roles → m.Holds u.normalized.roles → updated.answer = some (.ok .done) ∧
        deleted.answer = some (.ok .done) ∧ rebuilt.answer = some (.ok .done)) ∧
      (updated.answer = some (.ok .done) → rebuilt.answer = some (.ok .done) →
        updated.session.stored = rebuilt.session.stored) ∧
      (∀ s', Reachable s' → s'.backend? = s.backend? →
        (∀ email, email ≠ u.email → (s'.perform (.user email)).answer = (s.perform (.user email)).answer) →
        (s'.perform (.update u)).answer = some (.ok .done) → updated.answer = some (.ok .done) →
        (s'.perform (.update u)).session.stored = updated.session.stored) ∧
      ∀ v qs, v.email = u.email →
        let later := (s.performAll qs).session.perform (.update u)
        let overwriting := (s.performAll (.update v :: qs)).session.perform (.update u)
        later.answer = some (.ok .done) → (m = .embedded ∨ overwriting.answer = some (.ok .done)) →
          overwriting.answer = some (.ok .done) ∧ overwriting.session.stored = later.session.stored := by
  intro m updated deleted rebuilt
  obtain ⟨m', r, h⟩ := hs.shows
  obtain rfl : m' = m := by
    obtain ⟨store', hs', -, rfl⟩ := h.store
    obtain rfl := Option.some.inj (hs'.symm.trans hstore)
    rfl
  obtain ⟨hopen, x, hx, rfl⟩ := h.of_user hold
  have hemail : unfitEmail? u.email = none := (User.unfit?_eq_none.1 hu).1
  have hthere : r.entries.has u.email = true := KeyTable.has_iff_exists.2 ⟨x, hx⟩
  have hupdated : updated.answer = some (Medium.verdict (m.updating? (some x.roles) u.normalized.roles)) :=
    h.answer_update hopen hu hx
  have hdeleted : deleted.answer = some (Medium.verdict m.deleting?) := h.answer_delete hopen hemail hthere
  have hrebuilt (hd : m.deleting? = none) :
      rebuilt.answer = some (Medium.verdict (m.creating? u.normalized.roles)) := by
    rw [hd] at hdeleted
    have hbetween := (h.granted hdeleted).2
    rw [Roll.serve_delete hopen hemail hthere] at hbetween
    exact hbetween.answer_create hopen hu (r.has_drop _)
  refine ⟨⟨hupdated, hdeleted, hrebuilt⟩, ?_, ?_, ?_, ?_⟩
  · intro hbefore hafter
    obtain ⟨hcreating, hupdating, hdeleting⟩ := Medium.of_holds hbefore hafter
    exact ⟨hupdated.trans (congrArg (some ∘ Medium.verdict) hupdating),
      hdeleted.trans (congrArg (some ∘ Medium.verdict) hdeleting),
      (hrebuilt hdeleting).trans (congrArg (some ∘ Medium.verdict) hcreating)⟩
  · -- both ways lead to the same roll
    intro hok hok'
    exact (h.of_update hok).2.stored_eq (h.of_rebuild hopen hu hthere hok') rfl
  · -- whatever was said of the user before, all other entries are the same
    intro s' hs' hbackend hothers hok' hok
    obtain ⟨m', r', h'⟩ := hs'.shows
    obtain ⟨⟨hopen', -, hthere'⟩, -⟩ := h'.of_update hok'
    rw [h'.backend?_eq, h.backend?_eq] at hbackend
    exact h'.update_eq h (h'.agreeBut h hopen' hopen hthere' hthere hothers) (Option.some.inj hbackend) hok' hok
  · intro v qs hv later overwriting hlater hboth
    exact h.update_overwrites hv qs hlater hboth

/-- A user that keeps a role, loses one, gains one and loses its name, in stores of both kinds. -/
theorem update_rebuilds_both :
    let ann : User := ⟨"ann", "Ann", ["a", "b"]⟩
    let u : User := ⟨"ann", "", ["b", "c"]⟩
    let embedded := (start { StoreSettings.default with url := "redb://roster.redb" } .empty).session.after
      (.request (.create ann))
    let relational := (start { StoreSettings.default with url := "sqlite://roster.db?mode=rwc" } .empty).session.after
      (.request (.create ann))
    (embedded.perform (.update u)).session.stored =
        ((embedded.perform (.delete "ann")).session.perform (.create u)).session.stored ∧
      (relational.perform (.update u)).session.stored =
        ((relational.perform (.delete "ann")).session.perform (.create u)).session.stored ∧
      ((embedded.performAll [.update ann]).session.perform (.update u)).session.stored =
        (embedded.perform (.update u)).session.stored := by
  intro ann u embedded relational
  have hann : ann.unfit? = none := by decide
  have hu : u.unfit? = none := by decide
  have hfew : Medium.Moderate ann.normalized.roles := Medium.moderate_normalized (by decide)
  have hfew' : Medium.Moderate u.normalized.roles := Medium.moderate_normalized (by decide)
  have hcreating := (Medium.of_holds (m := .relational false) ⟨rfl, hfew⟩ ⟨rfl, hfew⟩).1
  have hempty := Store.IsNew.embedded "roster.redb" ["roster.redb"]
  have hrows := Store.IsNew.relational (.file ["roster.db"]) false
  have htables : Reachable embedded := .after (.start _ _ rfl hempty) _
  have hdatabase : Reachable relational := .after (.start _ _ rfl hrows) _
  have hshows : ShowsEither (start { StoreSettings.default with url := "redb://roster.redb" } .empty).session
      .embedded .new := showsEither_new rfl hempty
  have hshows' : ShowsEither (start { StoreSettings.default with url := "sqlite://roster.db?mode=rwc" } .empty).session
      (.relational false) .new := showsEither_new rfl hrows
  obtain ⟨store, hs, -, hmedium⟩ := (hshows.perform (.create ann)).2.store
  obtain ⟨store', hs', -, hmedium'⟩ := (hshows'.perform (.create ann)).2.store
  obtain ⟨-, hgranted, hsame, -, hlater⟩ :=
    update_rebuilds htables hs hu (hshows.user_of_create rfl hann rfl rfl)
  obtain ⟨-, hgranted', hsame', -, -⟩ :=
    update_rebuilds hdatabase hs' hu (hshows'.user_of_create rfl hann rfl hcreating)
  rw [hmedium] at hgranted hlater
  rw [hmedium'] at hgranted'
  obtain ⟨hupdated, -, hrebuilt⟩ := hgranted trivial trivial
  obtain ⟨hupdated', -, hrebuilt'⟩ := hgranted' ⟨rfl, hfew⟩ ⟨rfl, hfew'⟩
  exact ⟨hsame hupdated hrebuilt, hsame' hupdated' hrebuilt', (hlater ann [] rfl hupdated (.inl rfl)).2⟩

/-- A crowd that a statement can add, and a greater one that only two of them can. -/
theorem ShowsRows.rebuild_crowded {home : Relational.Home} {n k : Nat} (h : ShowsRows s home false .new)
    (hmost : n + k ≤ 20000) (hfew : 2 * n ≤ Relational.Database.parameterLimit)
    (hfew' : 2 * k ≤ Relational.Database.parameterLimit)
    (hmany : Relational.Database.parameterLimit < 2 * (n + k)) :
    let before := (s.perform (.create (crowded n))).session
    let u := crowded (n + k)
    let rebuilt := (before.perform (.delete u.email)).session.perform (.create u)
    (before.perform (.user u.email)).answer = some (.ok (.user (crowded n).normalized)) ∧
      (before.perform (.update u)).answer = some (.ok .done) ∧
      (before.perform (.delete u.email)).answer = some (.ok .done) ∧
      rebuilt.answer = some (.error (.storage "add_roles" "too many SQL variables")) ∧
      (before.perform (.update u)).session.stored ≠ rebuilt.session.stored := by
  intro before u rebuilt
  have hold : (crowded n).unfit? = none := unfit?_crowded (by omega)
  have hu : u.unfit? = none := unfit?_crowded hmost
  have hcreating : (Medium.relational false).creating? (crowded n).normalized.roles = none := by
    refine Medium.syncing?_of_moderate (Nat.zero_le _) ?_
    rw [Medium.Moderate, length_crowd (by omega)]
    exact hfew
  have hgreat : Medium.syncing? [] u.normalized.roles = some (.storage "add_roles" "too many SQL variables") := by
    refine Medium.creating?_of_many ?_
    rw [length_crowd hmost]
    exact hmany
  have hcreate := Roll.serveOn_create (m := .relational false) (r := .new) rfl hold rfl
  rw [hcreating] at hcreate
  have hbefore := (h.perform (.create (crowded n))).2
  rw [hcreate] at hbefore
  have hfound : (Roll.new.put (crowded n)).entries.find? u.email = some (.ofUser (crowded n)) := by
    rw [Roll.put, KeyTable.find?_insert]
    exact if_pos rfl
  exact ⟨(ShowsEither.rows h).user_of_create rfl hold rfl hcreating,
    hbefore.rebuild_loses rfl hu hfound (syncing?_crowd hmost hfew') hgreat⟩

/-- A database adds roles to a user in two steps that it does not add in one. The user is updated, but when it
is built anew it is lost. -/
theorem update_rebuilds_crowded :
    let s := (start { StoreSettings.default with url := "sqlite://roster.db?mode=rwc" } .empty).session.after
      (.request (.create (crowded 384)))
    let u := crowded 16384
    let updated := s.perform (.update u)
    let deleted := s.perform (.delete u.email)
    let rebuilt := deleted.session.perform (.create u)
    Reachable s ∧ u.unfit? = none ∧
      (s.perform (.user u.email)).answer = some (.ok (.user (crowded 384).normalized)) ∧
      updated.answer = some (.ok .done) ∧ deleted.answer = some (.ok .done) ∧
      rebuilt.answer = some (.error (.storage "add_roles" "too many SQL variables")) ∧
      updated.session.stored ≠ rebuilt.session.stored := by
  intro s u updated deleted rebuilt
  have hstart : (start { StoreSettings.default with url := "sqlite://roster.db?mode=rwc" } .empty).session.store =
      some (.relational ⟨⟨true, false, .new⟩⟩ (.file ["roster.db"])) := rfl
  have hnew := showsRows_start hstart ⟨rfl, Relational.keeps_new⟩ Roll.fit_new
  exact ⟨.after (.start _ _ hstart (.relational _ _)) _, unfit?_crowded (by decide),
    hnew.rebuild_crowded (n := 384) (k := 16000) (by decide) (by decide) (by decide) (by decide)⟩

end Session

end Roster
