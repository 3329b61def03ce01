import Mathlib.Data.List.Induction
import Mathlib.Data.List.Nodup
import Roster.Proofs.Relational.System

/-!
# Calls at the same time on one connection, one after another

With a single connection nobody else does anything to the rows while a call is in its transaction. So a
call keeps, from step to step, the outcome that it has at its place: a call that writes has its place
where its effect comes about, a call that reads where its statement is answered, and a call that is
refused where it is told so. A transaction that is dropped or fails has no place and no effect.
-/

namespace Roster.Relational

open Script Operation

namespace System

variable {ι : Type} (shared : Shared) (q : ι → Request)

/-- The call is on the way to the outcome that it has at a place of the order, if it goes on alone. -/
def OnWay (i : ι) (before : List ι) (f : Flight) : Prop :=
  let place := inTurn shared q before
  let o := f.rest.run serve (place.shared, f.draft)
  o.answer = (place.perform (q i)).answer ∧ o.state.1 = (place.perform (q i)).state.shared

/-- What holds of a call while the given ones have taken effect. Its place is not before those that had
when it was made. -/
inductive Status (early commits : List ι) (i : ι) (f : Flight) : Prop where
  | ahead (phase : Follows (fun _ => Phase.mayAnswer) f.rest (.entering (q i).isMutation)) (draft : f.draft = none)
      (new : i ∉ commits) (onWay : ∀ before, OnWay shared q i before f)
  | inside (d : Database) (phase : Follows (fun _ => Phase.mayAnswer) f.rest .drafting)
      (isMutation : (q i).isMutation = true) (draft : f.draft = some d) (goes : f.answer? = none) (new : i ∉ commits)
      (onWay : OnWay shared q i commits f)
  | told (before : List ι) (since : early <+: before) (place : before <+: commits) (p : Phase)
      (hp : p = .read ∧ (q i).isMutation = false ∨ p = .refused)
      (phase : Follows (fun _ => Phase.mayAnswer) f.rest p) (draft : f.draft = none) (new : i ∉ commits)
      (answer : ∀ st, (f.rest.run serve st).answer = ((inTurn shared q before).perform (q i)).answer)
  | committed (before : List ι) (since : early <+: before) (place : before ++ [i] <+: commits)
      (phase : Follows (fun _ => Phase.mayAnswer) f.rest .committed) (draft : f.draft = none)
      (answer : ∀ st, (f.rest.run serve st).answer = ((inTurn shared q before).perform (q i)).answer)
  | struck (e : StoreError) (ended : f.rest = .fail e) (isStruck : f.struck = true) (draft : f.draft = none)
      (new : i ∉ commits)
  | dropped (isGone : f.gone = true) (goes : f.answer? = none) (draft : f.draft = none) (new : i ∉ commits)

/-- What holds at all times of a system with one connection, in which the given calls had taken effect
when a call was made. -/
structure Inv (earlier : ι → List ι) (s : System ι) : Prop where
  limit : s.limit = 1
  shared_eq : s.shared = (inTurn shared q s.commits).shared
  since (i : ι) : earlier i <+: s.commits
  once : s.commits.Nodup
  /-- What has taken effect was granted at its place. -/
  granted (before : List ι) (i : ι) : before ++ [i] <+: s.commits →
    (q i).isMutation = true ∧ ∃ a, ((inTurn shared q before).perform (q i)).answer = .ok a
  alone : s.holders.length ≤ 1
  connected (i : ι) : (s.flights i).draft.isSome = true → i ∈ s.holders
  status (i : ι) : Status shared q (earlier i) s.commits i (s.flights i)

variable {shared q}

/-! ## The order so far -/

theorem inTurn_concat (before : List ι) (i : ι) :
    inTurn shared q (before ++ [i]) = ((inTurn shared q before).perform (q i)).state := by
  simp [inTurn]

theorem inTurn_isOpen (hq : ∀ i, q i ≠ .close) (before : List ι) :
    (inTurn shared q before).shared.isOpen = shared.isOpen := by
  induction before using List.reverseRecOn with
  | nil => rfl
  | append_singleton before i ih =>
    rw [inTurn_concat]
    exact (run_isOpen (follows_ofRequest (hq i)) _).trans ih

/-- The invariant holds before anything has happened. -/
theorem inv_start (hq : ∀ i, q i ≠ .close) : Inv shared q (fun _ => []) (start 1 shared q) where
  limit := rfl
  shared_eq := rfl
  since _ := List.nil_prefix
  once := .nil
  granted before i hpre := by simp [start] at hpre
  alone := Nat.zero_le _
  connected i hi := by simp [start] at hi
  status i := .ahead (follows_ofRequest (hq i)) rfl (by simp [start]) fun _ => ⟨rfl, rfl⟩

variable {s : System ι} {early commits : List ι} {i j : ι} {f : Flight}

/-! ## Other calls go on -/

/-- A call without a transaction does not mind that another one takes effect. -/
theorem Status.concat (h : Status shared q early commits j f) (hdraft : f.draft = none) (hne : j ≠ i) :
    Status shared q early (commits ++ [i]) j f := by
  have hpre {before : List ι} (hb : before <+: commits) : before <+: commits ++ [i] :=
    hb.trans (List.prefix_append _ _)
  have hnew (hn : j ∉ commits) : j ∉ commits ++ [i] := by simp [hn, hne]
  cases h with
  | ahead phase draft new onWay => exact .ahead phase draft (hnew new) onWay
  | inside d phase isMutation draft => rw [hdraft] at draft; cases draft
  | told before since place p hp phase draft new answer =>
    exact .told before since (hpre place) p hp phase draft (hnew new) answer
  | committed before since place phase draft answer => exact .committed before since (hpre place) phase draft answer
  | struck e ended isStruck draft new => exact .struck e ended isStruck draft (hnew new)
  | dropped isGone goes draft new => exact .dropped isGone goes draft (hnew new)

theorem settled_of_draft (h : f.draft = none) : f.settled = f := by
  unfold Flight.settled
  split
  · rw [← h]
  · rfl

/-- A transaction that goes on is inside; one that has ended was refused. -/
theorem Status.ofDrafting {d : Database} (phase : Follows (fun _ => Phase.mayAnswer) f.rest .drafting)
    (isMutation : (q i).isMutation = true) (draft : f.draft = some d) (new : i ∉ commits)
    (since : early <+: commits) (onWay : OnWay shared q i commits f) : Status shared q early commits i f.settled := by
  obtain ⟨_, rest, gone, struck⟩ := f
  cases draft
  cases rest with
  | done a => exact phase.elim
  | fail e => exact .told commits since (List.prefix_refl _) .refused (.inr rfl) nofun rfl new fun _ => onWay.1
  | report event rest => exact .inside d phase isMutation rfl rfl new onWay
  | call c rest => exact .inside d phase isMutation rfl rfl new onWay

theorem Status.left (h : Status shared q early commits i f) : Status shared q early commits i f.left := by
  cases h with
  | ahead phase draft new onWay =>
    refine .ahead phase rfl new ?_
    simpa only [OnWay, Flight.left, draft] using onWay
  | inside d phase isMutation draft goes new onWay => exact .dropped rfl goes rfl new
  | told before since place p hp phase draft new answer => exact .told before since place p hp phase rfl new answer
  | committed before since place phase draft answer => exact .committed before since place phase rfl answer
  | struck e ended isStruck draft new => exact .struck e ended isStruck rfl new
  | dropped isGone goes draft new => exact .dropped rfl goes rfl new

theorem Status.report {event : Log.Event} {rest : Operation Answer} (here : f.gone = false)
    (hf : f.rest = .report event rest) (since : early <+: commits) (h : Status shared q early commits i f) :
    Status shared q early commits i (Flight.settled { f with rest := rest }) := by
  obtain ⟨_, _, gone, struck⟩ := f
  cases hf
  show Status shared q early commits i (Flight.settled ⟨_, rest, gone, struck⟩)
  cases h with
  | ahead phase draft new onWay =>
    cases draft
    rw [settled_of_draft rfl]
    exact .ahead phase rfl new onWay
  | inside d phase isMutation draft goes new onWay => exact .ofDrafting phase isMutation draft new since onWay
  | told before since place p hp phase draft new answer =>
    cases draft
    rw [settled_of_draft rfl]
    exact .told before since place p hp phase rfl new answer
  | committed before since place phase draft answer =>
    cases draft
    rw [settled_of_draft rfl]
    exact .committed before since place phase rfl answer
  | struck e ended => cases ended
  | dropped isGone => exact absurd (here.symm.trans isGone) (by simp)

/-! ## Who has the connection -/

variable {earlier : ι → List ι}

/-- Who has the connection is the only one in a transaction. -/
theorem Inv.draft_eq_none (h : Inv shared q earlier s) (hi : i ∈ s.holders) (hj : j ≠ i) :
    (s.flights j).draft = none := by
  by_contra hsome
  have hmem := h.connected j (Option.isSome_iff_ne_none.2 hsome)
  have halone := h.alone
  match hl : s.holders, hi, hmem, halone with
  | [k], hi, hmem, _ =>
    rw [List.mem_singleton] at hi hmem
    exact hj (hmem.trans hi.symm)

variable [DecidableEq ι]

theorem land_connected (h : ∀ j, (s.flights j).draft.isSome = true → j ∈ s.holders)
    (hf : f.settled.draft.isSome = true → i ∈ s.holders) (sh : Shared) (commits : List ι) (j : ι)
    (hj : ((s.land i sh f commits).flights j).draft.isSome = true) : j ∈ (s.land i sh f commits).holders := by
  rw [land_flights] at hj
  by_cases hji : j = i
  · subst hji
    rw [if_pos rfl] at hj
    unfold land
    dsimp only
    rw [if_pos hj]
    exact hf hj
  · rw [if_neg hji] at hj
    exact mem_holders_land (h j hj) hji ..

theorem land_alone (h : s.holders.length ≤ 1) (sh : Shared) (commits : List ι) :
    (s.land i sh f commits).holders.length ≤ 1 := by
  unfold land
  dsimp only
  split
  · exact h
  · exact Nat.le_trans (List.length_filter_le _ _) h

/-! ## Steps -/

/-- A call has made a step that leaves the rows alone. -/
theorem Inv.land (h : Inv shared q earlier s) (hf : f.draft.isSome = true → i ∈ s.holders)
    (hs : Status shared q (earlier i) s.commits i f.settled) :
    Inv shared q earlier (s.land i s.shared f s.commits) where
  limit := h.limit
  shared_eq := h.shared_eq
  since := h.since
  once := h.once
  granted := h.granted
  alone := land_alone h.alone _ _
  connected := land_connected h.connected (fun hd => hf ((Flight.goes_of_settled hd).1)) _ _
  status j := by
    by_cases hj : j = i
    · subst hj
      simpa [System.land] using hs
    · simpa [System.land, hj] using h.status j

/-- A call with the connection has taken effect. -/
theorem Inv.land_effect (h : Inv shared q earlier s) (hi : i ∈ s.holders) (new : i ∉ s.commits)
    (isMutation : (q i).isMutation = true)
    (granted : ∃ a, ((inTurn shared q s.commits).perform (q i)).answer = .ok a) {shared' : Shared}
    (hshared : shared' = (inTurn shared q (s.commits ++ [i])).shared) (hdraft : f.draft = none)
    (hs : Status shared q (earlier i) (s.commits ++ [i]) i f) :
    Inv shared q earlier (s.land i shared' f (s.commits ++ [i])) where
  limit := h.limit
  shared_eq := hshared
  since j := (h.since j).trans (List.prefix_append _ _)
  once := by simpa only [System.land, ← List.concat_eq_append] using h.once.concat new
  granted before j hpre := by
    rcases List.prefix_concat_iff.1 hpre with heq | hpre
    · obtain ⟨rfl, hj⟩ := List.append_inj' heq rfl
      cases hj
      exact ⟨isMutation, granted⟩
    · exact h.granted before j hpre
  alone := land_alone h.alone _ _
  connected := land_connected h.connected (fun _ => hi) _ _
  status j := by
    by_cases hj : j = i
    · subst hj
      simpa [System.land, settled_of_draft hdraft] using hs
    · simpa [System.land, hj] using (h.status j).concat (h.draft_eq_none hi hj) hj

section Served

variable {β : Type} {c : Call β} {rest : Except DbFault β → Operation Answer} {draft draft' : Draft}
  {gone struck : Bool}

theorem Inv.served_apart (h : Inv shared q earlier s) (hf : s.flights i = ⟨draft, .call c rest, gone, struck⟩)
    {reply : Except DbFault β} (hserve : serve c (s.shared, draft) = (reply, (s.shared, draft')))
    (heffect : c.takesEffect draft reply = false) (hd : draft'.isSome = true → i ∈ s.holders)
    (hst : Status shared q (earlier i) s.commits i (Flight.settled ⟨draft', rest reply, gone, struck⟩)) :
    Inv shared q earlier (s.served i c rest) := by
  simp only [served, hf, hserve, heffect]
  exact h.land hd hst

theorem Inv.served_outside (h : Inv shared q earlier s) (hf : s.flights i = ⟨draft, .call c rest, gone, struck⟩)
    {reply : Except DbFault β} (hserve : serve c (s.shared, draft) = (reply, (s.shared, none)))
    (heffect : c.takesEffect draft reply = false)
    (hst : Status shared q (earlier i) s.commits i ⟨none, rest reply, gone, struck⟩) :
    Inv shared q earlier (s.served i c rest) := by
  refine h.served_apart hf hserve heffect (by simp) ?_
  rwa [settled_of_draft rfl]

/-- A call takes effect at its place, which is the last one. -/
theorem Inv.served_effect (h : Inv shared q earlier s) (hf : s.flights i = ⟨draft, .call c rest, gone, struck⟩)
    (hi : i ∈ s.holders) (new : i ∉ s.commits) (isMutation : (q i).isMutation = true)
    (onWay : OnWay shared q i s.commits ⟨draft, .call c rest, gone, struck⟩) {b : β} {shared' : Shared}
    (hserve : serve c (s.shared, draft) = (.ok b, (shared', none))) (heffect : c.takesEffect draft (.ok b) = true)
    (phase : Follows (fun _ => Phase.mayAnswer) (rest (.ok b)) .committed) :
    Inv shared q earlier (s.served i c rest) := by
  -- what follows is the same for the call here and for the call at its place
  have hover := run_over rfl phase
  obtain ⟨hanswer, hstate⟩ := onWay
  rw [← h.shared_eq] at hanswer hstate
  simp only [Script.run, hserve] at hanswer hstate
  obtain ⟨a, ha⟩ := run_committed phase (shared', none)
  simp only [served, hf, hserve, heffect, if_true]
  refine h.land_effect hi new isMutation ⟨a, hanswer.symm.trans ha⟩ ?_ rfl
    (.committed s.commits (h.since i) (List.prefix_refl _) phase rfl fun st => (hover st _).2.trans hanswer)
  rw [inTurn_concat, ← hstate]
  exact congrArg Prod.fst (hover (shared', none) (shared', none)).1.symm

/-- A call that reads is answered from the rows as they are. -/
theorem Inv.served_read (h : Inv shared q earlier s) (hf : s.flights i = ⟨none, .call c rest, gone, struck⟩)
    (hc : c.reads = true) (isRead : (q i).isMutation = false)
    (phase : Follows (fun _ => Phase.mayAnswer) (.call c rest) (.entering (q i).isMutation)) (new : i ∉ s.commits)
    (onWay : OnWay shared q i s.commits ⟨none, .call c rest, gone, struck⟩) :
    Inv shared q earlier (s.served i c rest) := by
  obtain ⟨r, hserve⟩ := serve_reads hc s.shared
  rw [isRead] at phase
  have phase' := phase.reply (next?_reads hc) (by decide) r
  have hanswer := onWay.1
  rw [← h.shared_eq] at hanswer
  simp only [Script.run, hserve] at hanswer
  have heffect : c.takesEffect none r = false := by
    cases c with
    | joined | liveRoles | countRoles => rfl
    | _ => cases hc
  exact h.served_outside hf hserve heffect <|
    .told s.commits (h.since i) (List.prefix_refl _) .read (.inl ⟨rfl, isRead⟩) phase' rfl new fun st =>
      (run_over rfl phase' st _).2.trans hanswer

/-- A deletion takes effect, or it is told that there is nobody to delete. -/
theorem Inv.served_delete {email : String} {rest : Except DbFault Nat → Operation Answer} (h : Inv shared q earlier s)
    (hf : s.flights i = ⟨none, .call (.deleteUser email) rest, gone, struck⟩) (hi : i ∈ s.holders)
    (isMutation : (q i).isMutation = true)
    (phase : Follows (fun _ => Phase.mayAnswer) (.call (.deleteUser email) rest) (.entering (q i).isMutation))
    (new : i ∉ s.commits) (onWay : OnWay shared q i s.commits ⟨none, .call (.deleteUser email) rest, gone, struck⟩) :
    Inv shared q earlier (s.served i (.deleteUser email) rest) := by
  rw [isMutation] at phase
  obtain ⟨hfail, hrest⟩ := phase
  rcases serve_deleteUser email s.shared with ⟨r, hserve, hnone⟩ | ⟨n, db, hn, hserve⟩
  · have phase' : Follows (fun _ => Phase.mayAnswer) (rest r) .refused := by
      cases r with
      | ok n =>
        obtain ⟨p, hp, hfollows⟩ := hrest n
        obtain rfl := hnone n rfl
        cases hp
        exact hfollows
      | error f =>
        obtain ⟨e, he⟩ := hfail f
        rw [he]
        exact nofun
    have heffect : (Call.deleteUser email).takesEffect none r = false := by
      cases r with
      | ok n => simp [Call.takesEffect, hnone n rfl]
      | error f => rfl
    have hanswer := onWay.1
    rw [← h.shared_eq] at hanswer
    simp only [Script.run, hserve] at hanswer
    exact h.served_outside hf hserve heffect <|
      .told s.commits (h.since i) (List.prefix_refl _) .refused (.inr rfl) phase' rfl new fun st =>
        (run_over rfl phase' st _).2.trans hanswer
  · obtain ⟨p, hp, hfollows⟩ := hrest n
    obtain rfl : (if n = 0 then Phase.refused else .committed) = p := Option.some.inj hp
    rw [if_neg hn] at hfollows
    exact h.served_effect hf hi new isMutation onWay hserve (by simpa [Call.takesEffect] using hn) hfollows

theorem Inv.served_ahead (h : Inv shared q earlier s) (hq : ∀ i, q i ≠ .close)
    (hf : s.flights i = ⟨none, .call c rest, gone, struck⟩) (connected : c.needsConnection = true → i ∈ s.holders)
    (phase : Follows (fun _ => Phase.mayAnswer) (.call c rest) (.entering (q i).isMutation)) (new : i ∉ s.commits)
    (onWay : ∀ before, OnWay shared q i before ⟨none, .call c rest, gone, struck⟩) :
    Inv shared q earlier (s.served i c rest) := by
  obtain ⟨b⟩ := nonempty_reply c
  obtain ⟨p, hnext, -⟩ := phase.2 b
  cases c with
  | takeConnection =>
    have hnext : ∀ b, (Phase.entering (q i).isMutation).next? .takeConnection b = some (.entering (q i).isMutation) := by
      cases (q i).isMutation <;> exact fun _ => rfl
    refine h.served_outside hf rfl rfl (.ahead (phase.reply hnext (by simp) _) rfl new fun before => ?_)
    -- whether the store is open is the same at every place of the order
    have hopen : s.shared.isOpen = (inTurn shared q before).shared.isOpen := by
      rw [h.shared_eq, inTurn_isOpen hq, inTurn_isOpen hq]
    rw [hopen]
    exact onWay before
  | begin =>
    cases hw : (q i).isMutation <;> rw [hw] at hnext phase <;> cases hnext
    refine h.served_apart hf rfl rfl (fun _ => connected rfl) ?_
    refine .ofDrafting (phase.reply (fun _ => rfl) (by decide) _) hw rfl new (h.since i) ?_
    rw [h.shared_eq]
    exact onWay s.commits
  | deleteUser email =>
    cases hw : (q i).isMutation <;> rw [hw] at hnext <;> cases hnext
    exact h.served_delete hf (connected rfl) hw phase new (onWay _)
  | joined | liveRoles | countRoles =>
    cases hw : (q i).isMutation <;> rw [hw] at hnext <;> cases hnext
    exact h.served_read hf rfl hw phase new (onWay _)
  | _ => cases hw : (q i).isMutation <;> rw [hw] at hnext <;> cases hnext

/-- A call in its transaction changes its draft or commits it. -/
theorem Inv.served_inside (h : Inv shared q earlier s) {d : Database}
    (hf : s.flights i = ⟨some d, .call c rest, gone, struck⟩)
    (phase : Follows (fun _ => Phase.mayAnswer) (.call c rest) .drafting) (isMutation : (q i).isMutation = true)
    (new : i ∉ s.commits) (onWay : OnWay shared q i s.commits ⟨some d, .call c rest, gone, struck⟩) :
    Inv shared q earlier (s.served i c rest) := by
  have hi : i ∈ s.holders := h.connected i (by rw [hf]; rfl)
  by_cases hc : c.drafts = true
  · obtain ⟨r, d', hserve⟩ := serve_drafts hc s.shared d
    have heffect : c.takesEffect (some d) r = false := by
      cases c with
      | commit => cases hc
      | _ => rfl
    refine h.served_apart hf hserve heffect (fun _ => hi) ?_
    refine .ofDrafting (phase.reply (next?_drafts hc) (by decide) r) isMutation rfl new (h.since i) ?_
    simpa only [OnWay, Script.run, ← h.shared_eq, hserve] using onWay
  · obtain ⟨b⟩ := nonempty_reply c
    obtain ⟨p, hnext, hfollows⟩ := phase.2 b
    cases c with
    | commit =>
      cases hnext
      exact h.served_effect hf hi new isMutation onWay rfl rfl hfollows
    | findUser | insertUser | setFullName | rolesOf | insertRoles | deleteRoles => exact absurd rfl hc
    | _ => cases hnext

theorem Inv.served (h : Inv shared q earlier s) (hq : ∀ i, q i ≠ .close) (here : (s.flights i).gone = false)
    (hrest : (s.flights i).rest = .call c rest) (connected : c.needsConnection = true → i ∈ s.holders) :
    Inv shared q earlier (s.served i c rest) := by
  have hst := h.status i
  generalize hf : s.flights i = f at hst hrest here
  obtain ⟨draft, _, gone, struck⟩ := f
  cases hrest
  cases hst with
  | ahead phase hdraft new onWay =>
    cases hdraft
    exact h.served_ahead hq hf connected phase new onWay
  | inside d phase isMutation hdraft goes new onWay =>
    cases hdraft
    exact h.served_inside hf phase isMutation new onWay
  | told before since place p hp phase =>
    exact absurd phase (not_follows_call (by rcases hp with ⟨rfl, -⟩ | rfl <;> rfl))
  | committed before since place phase => exact absurd phase (not_follows_call rfl)
  | struck e ended => cases ended
  | dropped isGone => exact absurd (here.symm.trans isGone) (by simp)

/-- A statement that fails ends its call, which has had no effect and never will. -/
theorem Inv.strike (h : Inv shared q earlier s) (here : (s.flights i).gone = false)
    (hrest : (s.flights i).rest = .call c rest) (fault : DbFault) :
    Inv shared q earlier
      (s.land i s.shared { s.flights i with rest := rest (.error fault), struck := true } s.commits) := by
  have hst := h.status i
  refine h.land (h.connected i) ?_
  generalize s.flights i = f at hst hrest here
  obtain ⟨draft, _, gone, struck⟩ := f
  cases hrest
  -- every call that may still make a statement ends when one fails
  have hends {p : Phase} (phase : Follows (fun _ => Phase.mayAnswer) (.call c rest) p) (new : i ∉ s.commits) :
      Status shared q (earlier i) s.commits i (Flight.settled ⟨draft, rest (.error fault), gone, true⟩) := by
    obtain ⟨e, he⟩ := phase.1 fault
    rw [he]
    exact .struck e rfl rfl rfl new
  cases hst with
  | ahead phase _ new => exact hends phase new
  | inside d phase _ _ _ new => exact hends phase new
  | told before since place p hp phase _ new => exact hends phase new
  | committed before since place phase => exact absurd phase (not_follows_call rfl)
  | struck e ended => cases ended
  | dropped isGone => exact absurd (here.symm.trans isGone) (by simp)

end Served

/-! ## Every move -/

/-- Every move keeps the invariant. -/
theorem Inv.move (h : Inv shared q earlier s) (hq : ∀ i, q i ≠ .close) (m : Move ι) :
    Inv shared q earlier (s.move m) := by
  have hm := s.moved m
  generalize s.move m = s' at hm ⊢
  cases hm with
  | same => exact h
  | left i =>
    refine h.land nofun ?_
    rw [settled_of_draft rfl]
    exact (h.status i).left
  | connected i _ _ room =>
    have hnone : s.holders = [] := by
      rw [h.limit] at room
      exact List.length_eq_zero_iff.1 (Nat.lt_one_iff.1 room)
    exact {
      limit := h.limit
      shared_eq := h.shared_eq
      since := h.since
      once := h.once
      granted := h.granted
      alone := by simp [hnone]
      connected := fun j hj => List.mem_cons_of_mem i (h.connected j hj)
      status := h.status }
  | reported i _ here hrest => exact h.land (h.connected i) ((h.status i).report here hrest (h.since i))
  | served i _ here hrest connected => exact h.served hq here hrest connected
  | struck i fault _ here hrest => exact h.strike here hrest fault

theorem Inv.run (h : Inv shared q earlier s) (hq : ∀ i, q i ≠ .close) (moves : List (Move ι)) :
    Inv shared q earlier (s.run moves) := by
  induction moves generalizing s with
  | nil => exact h
  | cons m moves ih => exact ih (h.move hq m)

/-- For a call that has done nothing yet, all that has taken effect is earlier. -/
theorem Inv.made (h : Inv shared q earlier s) (hq : ∀ i, q i ≠ .close)
    (hi : s.flights i = ⟨none, Operation.ofRequest (q i), false, false⟩) (new : i ∉ s.commits) :
    Inv shared q (Function.update earlier i s.commits) s where
  limit := h.limit
  shared_eq := h.shared_eq
  since j := by
    by_cases hj : j = i
    · simp [hj]
    · simpa [hj] using h.since j
  once := h.once
  granted := h.granted
  alone := h.alone
  connected := h.connected
  status j := by
    by_cases hj : j = i
    · subst hj
      rw [hi]
      exact .ahead (follows_ofRequest (hq j)) rfl new fun _ => ⟨rfl, rfl⟩
    · simpa [hj] using h.status j

end System

end Roster.Relational
