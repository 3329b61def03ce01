import Mathlib.Data.List.Induction
import Roster.Proofs.Embedded.Phases
import Roster.Proofs.Embedded.Runs
import Roster.Proofs.Embedded.System

/-!
# Calls at the same time, one after another

Whatever the order of steps and whoever goes away, the calls whose writes were committed have the
effect that they have one after another, and every call answers as it does at its place in that
order. A call keeps, from step to step, the outcome that it has at its place: a call that reads has
its place where its transaction began, and one that writes where it commits, because nobody else
commits while it has the write transaction.
-/

namespace Roster.Embedded

open Script Operation

/-! ## How far a call has got -/

namespace System

variable {ι : Type} (path : String) (shared : Shared) (q : ι → Request)

/-- The call is on the way to the outcome that it has at a place of the order. To tell, it is thought
to go on alone from there, with its caller present. -/
def OnWay (i : ι) (before : List ι) (f : Flight) : Prop :=
  let place := inTurn path shared q before
  let o := f.rest.run serve (place.shared, { f.caller with gone := false })
  o.answer = (place.perform (q i)).answer ∧ o.state.1 = (place.perform (q i)).state.shared

/-- What holds of a call while the given ones have been committed. -/
inductive Status (commits : List ι) (i : ι) (f : Flight) : Prop where
  | entering (phase : Follows (fun _ => Phase.mayAnswer) f.rest (.entering (q i).isMutation f.caller.handedOver))
      (view : f.caller.view = .none) (new : i ∉ commits) (onWay : ∀ before, OnWay path shared q i before f)
  | reading (before : List ι) (place : before <+: commits)
      (phase : Follows (fun _ => Phase.mayAnswer) f.rest .reading) (isRead : (q i).isMutation = false)
      (view : f.caller.view = .reading (inTurn path shared q before).shared.tables) (new : i ∉ commits)
      (onWay : OnWay path shared q i before f)
  | working (t : Tables) (p : Phase) (hp : p = .writing ∨ p = .committing)
      (phase : Follows (fun _ => Phase.mayAnswer) f.rest p) (isMutation : (q i).isMutation = true)
      (view : f.caller.view = .writing t) (handed : f.caller.handedOver = true) (goes : f.answer? = none)
      (new : i ∉ commits) (onWay : OnWay path shared q i commits f)
  | aborting (t : Tables) (phase : Follows (fun _ => Phase.mayAnswer) f.rest .aborting)
      (isMutation : (q i).isMutation = true) (view : f.caller.view = .writing t)
      (handed : f.caller.handedOver = true) (gone : f.caller.gone = true) (new : i ∉ commits)
  | committed (before : List ι) (place : before ++ [i] <+: commits)
      (phase : Follows (fun _ => Phase.mayAnswer) f.rest .committed) (isMutation : (q i).isMutation = true)
      (view : f.caller.view = .none)
      (answer : ∀ st, (f.rest.run serve st).answer = ((inTurn path shared q before).perform (q i)).answer)
  | aborted (phase : Follows (fun _ => Phase.mayAnswer) f.rest .aborted) (isMutation : (q i).isMutation = true)
      (view : f.caller.view = .none) (gone : f.caller.gone = true) (new : i ∉ commits)
  | refused (e : StoreError) (t : Tables) (before : List ι) (place : before <+: commits) (ended : f.rest = .fail e)
      (isMutation : (q i).isMutation = true) (view : f.caller.view = .writing t) (new : i ∉ commits)
      (answer : ((inTurn path shared q before).perform (q i)).answer = .error e)

/-- What holds of the system at all times. -/
structure Inv (s : System ι) : Prop where
  shared_eq : s.shared = (inTurn path shared q s.commits).shared
  once : s.commits.Nodup
  lock (i : ι) : s.writer = some i ↔ (s.flights i).writes = true
  status (i : ι) : Status path shared q s.commits i (s.flights i)

variable {path shared q}

/-! ## The order so far -/

theorem inTurn_concat (before : List ι) (i : ι) :
    inTurn path shared q (before ++ [i]) = ((inTurn path shared q before).perform (q i)).state := by
  simp [inTurn]

theorem inTurn_path (before : List ι) : (inTurn path shared q before).path = path := by
  induction before using List.reverseRecOn with
  | nil => rfl
  | append_singleton before i ih => rw [inTurn_concat]; exact ih

theorem inTurn_isOpen (hq : ∀ i, q i ≠ .close) (before : List ι) :
    (inTurn path shared q before).shared.isOpen = shared.isOpen := by
  induction before using List.reverseRecOn with
  | nil => rfl
  | append_singleton before i ih =>
    rw [inTurn_concat]
    exact (run_isOpen (follows_ofRequest _ (hq i)) _).trans ih

/-- The invariant holds before anything has happened. -/
theorem inv_start (hq : ∀ i, q i ≠ .close) : Inv path shared q (start path shared q) where
  shared_eq := rfl
  once := .nil
  lock i := by simp [start, Flight.writes, Caller.waiting]
  status i := by
    refine .entering (follows_ofRequest path (hq i)) rfl (by simp [start]) fun before => ?_
    simp only [OnWay, Store.perform, Store.play, inTurn_path]
    exact ⟨rfl, rfl⟩

/-! ## Other calls go on -/

variable {s : System ι} {commits : List ι} {i j : ι} {f : Flight}

/-- A call that has no write transaction does not mind that another one commits. -/
theorem Status.concat (h : Status path shared q commits j f) (hw : f.writes = false) (hne : j ≠ i) :
    Status path shared q (commits ++ [i]) j f := by
  have hpre {before : List ι} (hb : before <+: commits) : before <+: commits ++ [i] :=
    hb.trans (List.prefix_append _ _)
  have hnew (hn : j ∉ commits) : j ∉ commits ++ [i] := by simp [hn, hne]
  -- a call that works would have the write transaction
  have hnot {t : Tables} (hv : f.caller.view = .writing t) (ha : f.answer? = none) : False := by
    rw [Flight.writes_iff.2 ⟨⟨t, hv⟩, ha⟩] at hw
    cases hw
  cases h with
  | entering phase view new onWay => exact .entering phase view (hnew new) onWay
  | reading before place phase isRead view new onWay =>
    exact .reading before (hpre place) phase isRead view (hnew new) onWay
  | working t p hp phase isMutation view handed goes => exact (hnot view goes).elim
  | aborting t phase isMutation view handed gone new =>
    exact .aborting t phase isMutation view handed gone (hnew new)
  | committed before place phase isMutation view answer =>
    exact .committed before (hpre place) phase isMutation view answer
  | aborted phase isMutation view gone new => exact .aborted phase isMutation view gone (hnew new)
  | refused e t before place ended isMutation view new answer =>
    exact .refused e t before (hpre place) ended isMutation view (hnew new) answer

/-- A caller has gone away. -/
theorem Status.left (h : Status path shared q commits i f) : Status path shared q commits i f.left := by
  cases h with
  | entering phase view new onWay => exact .entering phase view new onWay
  | reading before place phase isRead view new onWay =>
    exact .reading before place phase isRead view new onWay
  | working t p hp phase isMutation view handed goes new onWay =>
    exact .working t p hp phase isMutation view handed goes new onWay
  | aborting t phase isMutation view handed gone new =>
    exact .aborting t phase isMutation view handed rfl new
  | committed before place phase isMutation view answer =>
    exact .committed before place phase isMutation view answer
  | aborted phase isMutation view gone new => exact .aborted phase isMutation view rfl new
  | refused e t before place ended isMutation view new answer =>
    exact .refused e t before place ended isMutation view new answer

/-- A write that has not been decided yet goes on, or it was refused. -/
theorem Status.ofWorking {t : Tables} {p : Phase} (hp : p = .writing ∨ p = .committing)
    (phase : Follows (fun _ => Phase.mayAnswer) f.rest p) (isMutation : (q i).isMutation = true)
    (view : f.caller.view = .writing t) (handed : f.caller.handedOver = true) (new : i ∉ commits)
    (onWay : OnWay path shared q i commits f) : Status path shared q commits i f := by
  cases ha : f.answer? with
  | none => exact .working t p hp phase isMutation view handed ha new onWay
  | some a =>
    obtain ⟨caller, rest⟩ := f
    cases rest with
    | done a => rcases hp with rfl | rfl <;> exact phase.elim
    | fail e => exact .refused e t commits (List.prefix_refl _) rfl isMutation view new onWay.1.symm
    | report event rest => cases ha
    | call c rest => cases ha

/-- A report changes nothing for the call. -/
theorem Status.report {event : Log.Event} {rest : Operation Answer} (hf : f.rest = .report event rest)
    (h : Status path shared q commits i f) : Status path shared q commits i { f with rest := rest } := by
  obtain ⟨caller, _⟩ := f
  cases hf
  cases h with
  | entering phase view new onWay => exact .entering phase view new onWay
  | reading before place phase isRead view new onWay =>
    exact .reading before place phase isRead view new onWay
  | working t p hp phase isMutation view handed goes new onWay =>
    exact .ofWorking hp phase isMutation view handed new onWay
  | aborting t phase isMutation view handed gone new => exact .aborting t phase isMutation view handed gone new
  | committed before place phase isMutation view answer => exact .committed before place phase isMutation view answer
  | aborted phase isMutation view gone new => exact .aborted phase isMutation view gone new
  | refused e t before place ended => cases ended

variable [DecidableEq ι]

/-- The write transaction is with the call that writes, also after a step of a call that may have it. -/
theorem lock_land (h : ∀ j, s.writer = some j ↔ (s.flights j).writes = true)
    (hf : f.writes = true → s.writer = none ∨ s.writer = some i) (sh : Shared) (commits : List ι) (j : ι) :
    (s.land i sh f commits).writer = some j ↔ ((s.land i sh f commits).flights j).writes = true := by
  unfold land
  by_cases hj : j = i
  · subst hj
    simp only [Function.update_self]
    cases hw : f.writes with
    | true => simp
    | false =>
      simp only [Bool.false_eq_true, if_false, iff_false]
      split
      · simp
      · assumption
  · simp only [Function.update_of_ne hj, ← h j]
    cases hw : f.writes with
    | true =>
      simp only [if_true, Option.some.injEq]
      have hnot : s.writer ≠ some j := by
        rcases hf hw with hn | hi
        · simp [hn]
        · simpa [hi] using Ne.symm hj
      exact iff_of_false (Ne.symm hj) hnot
    | false =>
      simp only [Bool.false_eq_true, if_false]
      split
      · rename_i hi
        simpa [hi] using Ne.symm hj
      · rfl

/-- A call has made a step that leaves the store alone. -/
theorem Inv.land (h : Inv path shared q s) (hf : f.writes = true → s.writer = none ∨ s.writer = some i)
    (hs : Status path shared q s.commits i f) : Inv path shared q (s.land i s.shared f s.commits) where
  shared_eq := h.shared_eq
  once := h.once
  lock := lock_land h.lock hf _ _
  status j := by
    by_cases hj : j = i
    · subst hj
      simpa [System.land] using hs
    · simpa [System.land, hj] using h.status j

/-- A call has committed its write. -/
theorem Inv.land_commit (h : Inv path shared q s) (hi : s.writer = some i) (hnew : i ∉ s.commits)
    {shared' : Shared} (hshared : shared' = (inTurn path shared q (s.commits ++ [i])).shared)
    (hs : Status path shared q (s.commits ++ [i]) i f) (hf : f.writes = false) :
    Inv path shared q (s.land i shared' f (s.commits ++ [i])) where
  shared_eq := hshared
  once := by simpa only [System.land, ← List.concat_eq_append] using h.once.concat hnew
  lock := lock_land h.lock (by simp [hf]) _ _
  status j := by
    by_cases hj : j = i
    · subst hj
      simpa [System.land] using hs
    · have hw : (s.flights j).writes = false := by
        rw [Bool.eq_false_iff, Ne, ← h.lock j, hi]
        simpa using Ne.symm hj
      simpa [System.land, hj] using (h.status j).concat hw hj

theorem Inv.leave (h : Inv path shared q s) (i : ι) : Inv path shared q (s.move (.leave i)) where
  shared_eq := h.shared_eq
  once := h.once
  lock j := by
    by_cases hj : j = i
    · subst hj
      simpa [move, Flight.left_writes] using h.lock j
    · simpa [move, hj] using h.lock j
  status j := by
    by_cases hj : j = i
    · subst hj
      simpa [move] using (h.status j).left
    · simpa [move, hj] using h.status j

/-! ## A call goes on -/

section Served

variable {β : Type} {c : Call β} {rest : Except String β → Operation Answer} {view : View} {gone handed : Bool}

theorem not_isCommit (hc : c.drafts = true) : c.isCommit = false := by
  cases c with
  | commit => cases hc
  | _ => rfl

theorem served_eq (hf : s.flights i = ⟨⟨view, gone, handed⟩, .call c rest⟩) {reply : Except String β}
    {shared' : Shared} {caller : Caller} (hs : serve c (s.shared, ⟨view, gone, handed⟩) = (reply, shared', caller)) :
    s.served i c rest =
      s.land i shared' ⟨caller, rest reply⟩ (if c.isCommit then s.commits ++ [i] else s.commits) := by
  simp only [served, hf, hs]

theorem Inv.served_apart (h : Inv path shared q s) (hf : s.flights i = ⟨⟨view, gone, handed⟩, .call c rest⟩)
    {reply : Except String β} {caller : Caller}
    (hs : serve c (s.shared, ⟨view, gone, handed⟩) = (reply, s.shared, caller)) (hc : c.isCommit = false)
    (hw : Flight.writes ⟨caller, rest reply⟩ = true → s.writer = none ∨ s.writer = some i)
    (hst : Status path shared q s.commits i ⟨caller, rest reply⟩) : Inv path shared q (s.served i c rest) := by
  rw [served_eq hf hs, hc]
  exact h.land hw hst

/-- A call enters the store, and begins its transaction in the state of that moment. -/
theorem Inv.served_entering (h : Inv path shared q s) (hq : ∀ i, q i ≠ .close)
    (hf : s.flights i = ⟨⟨.none, gone, handed⟩, .call c rest⟩) (hfree : c.isBeginWrite = true → s.writer = none)
    (phase : Follows (fun _ => Phase.mayAnswer) (.call c rest) (.entering (q i).isMutation handed))
    (new : i ∉ s.commits)
    (onWay : ∀ before, OnWay path shared q i before ⟨⟨.none, gone, handed⟩, .call c rest⟩) :
    Inv path shared q (s.served i c rest) := by
  obtain ⟨b, hb⟩ := serve_ok c (s.shared, ⟨.none, gone, handed⟩)
  obtain ⟨p, hnext, hrest⟩ := phase b
  cases c with
  | takeHandle =>
    cases hb
    cases hnext
    refine h.served_apart hf rfl rfl nofun (.entering hrest rfl new fun before => ?_)
    -- whether the store is open is the same at every place of the order
    have hopen : s.shared.isOpen = (inTurn path shared q before).shared.isOpen := by
      rw [h.shared_eq, inTurn_isOpen hq, inTurn_isOpen hq]
    rw [hopen]
    exact onWay before
  | handOver =>
    cases hnext
    exact h.served_apart hf rfl rfl nofun (.entering hrest rfl new onWay)
  | beginRead =>
    cases hw : (q i).isMutation <;> rw [hw] at hnext <;> cases handed <;> cases hnext
    refine h.served_apart hf rfl rfl nofun ?_
    rw [h.shared_eq]
    exact .reading s.commits (List.prefix_refl _) hrest hw rfl new (onWay s.commits)
  | beginWrite =>
    cases hw : (q i).isMutation <;> rw [hw] at hnext <;> cases handed <;> cases hnext
    refine h.served_apart hf rfl rfl (fun _ => .inl (hfree rfl)) ?_
    rw [h.shared_eq]
    exact .ofWorking (.inl rfl) hrest hw rfl rfl new (onWay s.commits)
  | _ => cases hw : (q i).isMutation <;> rw [hw] at hnext <;> cases handed <;> cases hnext

/-- A call that reads looks at what it saw when it began. -/
theorem Inv.served_reading (h : Inv path shared q s) {before : List ι} (place : before <+: s.commits)
    (hf : s.flights i = ⟨⟨view, gone, handed⟩, .call c rest⟩)
    (phase : Follows (fun _ => Phase.mayAnswer) (.call c rest) .reading) (isRead : (q i).isMutation = false)
    (hview : view = .reading (inTurn path shared q before).shared.tables) (new : i ∉ s.commits)
    (onWay : OnWay path shared q i before ⟨⟨view, gone, handed⟩, .call c rest⟩) :
    Inv path shared q (s.served i c rest) := by
  obtain ⟨b, hb⟩ := serve_ok c (s.shared, ⟨view, gone, handed⟩)
  obtain ⟨p, hnext, hrest⟩ := phase b
  obtain ⟨hc, rfl⟩ := next?_reading hnext
  obtain ⟨b', hserve⟩ := serve_looksUp hc view
  rw [hserve] at hb
  cases hb
  subst hview
  refine h.served_apart hf (hserve _ _ _) (not_isCommit (drafts_of_looksUp hc)) nofun
    (.reading before place hrest isRead rfl new ?_)
  simpa only [OnWay, Script.run, hserve] using onWay

/-- A call that writes changes its draft, or looks whether its caller is there. -/
theorem Inv.served_writing (h : Inv path shared q s) {t : Tables}
    (hf : s.flights i = ⟨⟨.writing t, gone, true⟩, .call c rest⟩)
    (phase : Follows (fun _ => Phase.mayAnswer) (.call c rest) .writing) (isMutation : (q i).isMutation = true)
    (new : i ∉ s.commits) (onWay : OnWay path shared q i s.commits ⟨⟨.writing t, gone, true⟩, .call c rest⟩) :
    Inv path shared q (s.served i c rest) := by
  have hwriter : s.writer = some i := (h.lock i).2 (by rw [hf]; rfl)
  by_cases hc : c.drafts = true
  · obtain ⟨b, t', hserve⟩ := serve_drafts hc t
    obtain ⟨p, hnext, hrest⟩ := phase b
    rw [next?_drafts hc] at hnext
    cases hnext
    refine h.served_apart hf (hserve _ _ _) (not_isCommit hc) (fun _ => .inr hwriter)
      (.ofWorking (.inl rfl) hrest isMutation rfl rfl new ?_)
    simpa only [OnWay, Script.run, hserve] using onWay
  · obtain ⟨b, hb⟩ := serve_ok c (s.shared, ⟨.writing t, gone, true⟩)
    obtain ⟨p, hnext, hrest⟩ := phase b
    cases c with
    | callerGone =>
      cases hb
      cases hnext
      refine h.served_apart hf rfl rfl (fun _ => .inr hwriter) ?_
      cases gone with
      | true => exact .aborting t hrest isMutation rfl rfl rfl new
      | false => exact .ofWorking (.inr rfl) hrest isMutation rfl rfl new onWay
    | openTable | record | records | members | membersWithin => exact absurd rfl hc
    | putRecord | takeRecord | putMember | takeMember => exact absurd rfl hc
    | _ => cases hnext

/-- A call commits what it has at its place, which is the last one. -/
theorem Inv.served_committing (h : Inv path shared q s) {t : Tables}
    (hf : s.flights i = ⟨⟨.writing t, gone, true⟩, .call c rest⟩)
    (phase : Follows (fun _ => Phase.mayAnswer) (.call c rest) .committing) (isMutation : (q i).isMutation = true)
    (new : i ∉ s.commits) (onWay : OnWay path shared q i s.commits ⟨⟨.writing t, gone, true⟩, .call c rest⟩) :
    Inv path shared q (s.served i c rest) := by
  obtain ⟨b, hb⟩ := serve_ok c (s.shared, ⟨.writing t, gone, true⟩)
  obtain ⟨p, hnext, hrest⟩ := phase b
  cases c with
  | commit =>
    cases hnext
    -- what follows on the commit is the same for the call here and for the call at its place
    have hover := run_over (.inl rfl) hrest
    obtain ⟨hanswer, hstate⟩ := onWay
    rw [served_eq hf rfl]
    refine h.land_commit ((h.lock i).2 (by rw [hf]; rfl)) new ?_ ?_ rfl
    · rw [inTurn_concat, ← hstate, h.shared_eq]
      exact congrArg Prod.fst (hover (_, ⟨.none, false, true⟩) (shared, .waiting)).1.symm
    · exact .committed s.commits (List.prefix_refl _) hrest isMutation rfl fun st =>
        (hover st _).2.trans hanswer
  | _ => cases hnext

/-- A call whose caller was gone gives its transaction up. -/
theorem Inv.served_aborting (h : Inv path shared q s) {t : Tables}
    (hf : s.flights i = ⟨⟨.writing t, true, handed⟩, .call c rest⟩)
    (phase : Follows (fun _ => Phase.mayAnswer) (.call c rest) .aborting) (isMutation : (q i).isMutation = true)
    (new : i ∉ s.commits) : Inv path shared q (s.served i c rest) := by
  obtain ⟨b, -⟩ := serve_ok c (s.shared, ⟨.writing t, true, handed⟩)
  obtain ⟨p, hnext, hrest⟩ := phase b
  cases c with
  | abort =>
    cases hnext
    exact h.served_apart hf rfl rfl nofun (.aborted hrest isMutation rfl rfl new)
  | _ => cases hnext

/-- The engine answers a call that goes on. -/
theorem Inv.served (h : Inv path shared q s) (hq : ∀ i, q i ≠ .close) (hrest : (s.flights i).rest = .call c rest)
    (hgo : (s.flights i).goesOn = true) (hfree : c.isBeginWrite = true → s.writer = none) :
    Inv path shared q (s.served i c rest) := by
  have hst := h.status i
  generalize hf : s.flights i = f at hst hrest hgo
  obtain ⟨⟨view, gone, handed⟩, _⟩ := f
  cases hrest
  cases hst with
  | entering phase hview new onWay =>
    cases hview
    exact h.served_entering hq hf hfree phase new onWay
  | reading before place phase isRead hview new onWay =>
    exact h.served_reading place hf phase isRead hview new onWay
  | working t p hp phase isMutation hview hhanded goes new onWay =>
    cases hview
    cases hhanded
    rcases hp with rfl | rfl
    · exact h.served_writing hf phase isMutation new onWay
    · exact h.served_committing hf phase isMutation new onWay
  | aborting t phase isMutation hview hhanded hgone new =>
    cases hview
    cases hgone
    exact h.served_aborting hf phase isMutation new
  | committed before place phase => exact absurd phase (not_follows_call (.inl rfl))
  | aborted phase => exact absurd phase (not_follows_call (.inr rfl))
  | refused e t before place ended => cases ended

end Served

theorem Inv.advance (h : Inv path shared q s) (hq : ∀ i, q i ≠ .close) (i : ι) :
    Inv path shared q (s.advance i) := by
  simp only [System.advance]
  split
  · rename_i hgo
    split
    · exact h
    · exact h
    · rename_i event rest hrest
      refine h.land (fun hw => .inr ((h.lock i).2 ?_)) ((h.status i).report hrest)
      obtain ⟨hview, -⟩ := Flight.writes_iff.1 hw
      exact Flight.writes_iff.2 ⟨hview, by simp [Flight.answer?, hrest]⟩
    · rename_i β c rest hrest
      split
      · exact h
      · rename_i hfree
        refine h.served hq hrest hgo fun hc => ?_
        simpa [hc] using hfree
  · exact h

/-- Every move keeps the invariant. -/
theorem Inv.move (h : Inv path shared q s) (hq : ∀ i, q i ≠ .close) (m : Move ι) :
    Inv path shared q (s.move m) := by
  cases m with
  | advance i => exact h.advance hq i
  | leave i => exact h.leave i

theorem Inv.run (h : Inv path shared q s) (hq : ∀ i, q i ≠ .close) (moves : List (Move ι)) :
    Inv path shared q (s.run moves) := by
  induction moves generalizing s with
  | nil => exact h
  | cons m moves ih => exact ih (h.move hq m)

/-- The invariant holds after any moves of any calls. -/
theorem inv_run (hq : ∀ i, q i ≠ .close) (moves : List (Move ι)) :
    Inv path shared q ((start path shared q).run moves) :=
  (inv_start hq).run hq moves

end System

end Roster.Embedded
