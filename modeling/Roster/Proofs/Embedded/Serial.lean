import Roster.Proofs.Embedded.Concurrency
import Roster.Proofs.Embedded.Progress
import Roster.Proofs.Embedded.Refinement

/-!
# What callers see of one another

The invariant of the system in terms of answers: the order of the commits is an order in which the
calls could have been made one after another. Of several creations of one user that is not there yet,
one is done and the others are refused.
-/

namespace Roster.Embedded

open Script Operation

/-! ## Answers in the last phases -/

theorem Flight.run_of_answer {f : Flight} {a : Except StoreError Answer} (h : f.answer? = some a)
    (st : Shared × Caller) : f.rest.run serve st = ⟨a, st, []⟩ := by
  unfold Flight.answer? at h
  split at h <;> cases h
  · rename_i hrest
    rw [hrest]
    rfl
  · rename_i hrest
    rw [hrest]
    rfl

theorem Flight.phase_of_answer {f : Flight} {a : Except StoreError Answer} {p : Phase} (h : f.answer? = some a)
    (phase : Follows (fun _ => Phase.mayAnswer) f.rest p) :
    match a with
    | .ok _ => p.mayAnswer
    | .error e => p.mayFail e := by
  unfold Flight.answer? at h
  split at h <;> cases h
  · rename_i hrest
    rw [hrest] at phase
    exact phase
  · rename_i hrest
    rw [hrest] at phase
    exact phase

namespace System

variable {ι : Type} {path : String} {shared : Shared} {q : ι → Request} {s : System ι}

variable (path shared q) in
/-- The answer of a call in the order of the commits. -/
structure Answered (s : System ι) (i : ι) (a : Except StoreError Answer) : Prop where
  /-- Unless its caller went away, a call answers as it does at a place of the order; at its own place
  if it was committed itself. -/
  place : (a = .error .cancelled ∧ (s.flights i).caller.gone = true) ∨
    ∃ before, before <+: s.commits ∧ (i ∈ s.commits → before ++ [i] <+: s.commits) ∧
      a = ((inTurn path shared q before).perform (q i)).answer
  /-- What was to change something has been committed if it was done, and not if it failed. -/
  effect : i ∈ s.commits ↔ (q i).isMutation = true ∧ ∃ v, a = .ok v

theorem Inv.answered (h : Inv path shared q s) {i : ι} {a : Except StoreError Answer}
    (ha : (s.flights i).answer? = some a) : Answered path shared q s i a := by
  have hrun := Flight.run_of_answer ha
  have hphase {p : Phase} (phase : Follows (fun _ => Phase.mayAnswer) (s.flights i).rest p) :=
    Flight.phase_of_answer ha phase
  have hplace {before : List ι} (hbefore : OnWay path shared q i before (s.flights i)) :
      a = ((inTurn path shared q before).perform (q i)).answer := by
    rw [← hbefore.1, hrun]
  cases h.status i with
  | entering phase view new onWay =>
    -- refused at the door, which it would be anywhere in the order
    refine ⟨.inr ⟨s.commits, List.prefix_refl _, fun hi => absurd hi new, hplace (onWay _)⟩, ?_⟩
    refine iff_of_false new ?_
    rintro ⟨hmutation, v, rfl⟩
    exact Bool.false_ne_true ((hphase phase).symm.trans hmutation)
  | reading before place phase isRead view new onWay =>
    refine ⟨.inr ⟨before, place, fun hi => absurd hi new, hplace onWay⟩, iff_of_false new ?_⟩
    rintro ⟨hmutation, -⟩
    exact Bool.false_ne_true (isRead.symm.trans hmutation)
  | working t p hp phase isMutation view handed goes new onWay =>
    rw [ha] at goes
    cases goes
  | aborting t phase =>
    cases a <;> exact (hphase phase).elim
  | committed before place phase isMutation view answer =>
    have hi : i ∈ s.commits := place.subset (by simp)
    have hbefore : before <+: s.commits := (List.prefix_append _ _).trans place
    have hanswer := answer (shared, .waiting)
    rw [hrun] at hanswer
    refine ⟨.inr ⟨before, hbefore, fun _ => place, hanswer⟩, iff_of_true hi ⟨isMutation, ?_⟩⟩
    cases a with
    | ok v => exact ⟨v, rfl⟩
    | error e => exact (hphase phase).elim
  | aborted phase isMutation view gone new =>
    cases a with
    | ok v => exact (hphase phase).elim
    | error e =>
      have hcancelled : e = .cancelled := hphase phase
      exact ⟨.inl ⟨by rw [hcancelled], gone⟩, iff_of_false new (by simp)⟩
  | refused e t before place ended isMutation view new answer =>
    have hae : a = .error e := by
      rw [Flight.answer?, ended] at ha
      exact (Option.some.inj ha).symm
    exact ⟨.inr ⟨before, place, fun hi => absurd hi new, hae.trans answer.symm⟩,
      iff_of_false new (by simp [hae])⟩

theorem Inv.mutation (h : Inv path shared q s) {i : ι} (hi : i ∈ s.commits) : (q i).isMutation = true := by
  cases h.status i with
  | entering phase view new => exact absurd hi new
  | reading before place phase isRead view new => exact absurd hi new
  | working t p hp phase isMutation => exact isMutation
  | aborting t phase isMutation => exact isMutation
  | committed before place phase isMutation => exact isMutation
  | aborted phase isMutation => exact isMutation
  | refused e t before place ended isMutation => exact isMutation

/-- A call that sees tables to read is reading, and they are those at one place of the order. -/
theorem Status.of_reading {commits : List ι} {i : ι} {f : Flight} (h : Status path shared q commits i f) {t : Tables}
    (hview : f.caller.view = .reading t) : Follows (fun _ => Phase.mayAnswer) f.rest .reading ∧
      ∃ before, before <+: commits ∧ t = (inTurn path shared q before).shared.tables ∧
        OnWay path shared q i before f := by
  cases h with
  | reading before place phase isRead view new onWay =>
    rw [hview] at view
    cases view
    exact ⟨phase, before, place, rfl, onWay⟩
  | entering phase view => rw [hview] at view; cases view
  | working t' p hp phase isMutation view => rw [hview] at view; cases view
  | aborting t' phase isMutation view => rw [hview] at view; cases view
  | committed before place phase isMutation view => rw [hview] at view; cases view
  | aborted phase isMutation view => rw [hview] at view; cases view
  | refused e t' before place ended isMutation view => rw [hview] at view; cases view

variable [DecidableEq ι]

/-- A call that reads sees the same tables to its end. -/
theorem Inv.view_move (h : Inv path shared q s) {i : ι} {t : Tables}
    (hview : (s.flights i).caller.view = .reading t) (m : Move ι) :
    ((s.move m).flights i).caller.view = .reading t := by
  have hm := s.moved m i
  generalize (s.move m).flights i = f at hm ⊢
  cases hm with
  | same => exact hview
  | left => exact hview
  | reported => exact hview
  | @served _ β c rest hrest =>
    obtain ⟨phase, -⟩ := (h.status i).of_reading hview
    rw [hrest] at phase
    obtain ⟨b, -⟩ := serve_ok c (s.shared, (s.flights i).caller)
    obtain ⟨p, hnext, -⟩ := phase b
    obtain ⟨b', hserve⟩ := serve_looksUp (next?_reading hnext).1 (s.flights i).caller.view
    show (serve c (s.shared, ⟨(s.flights i).caller.view, (s.flights i).caller.gone,
      (s.flights i).caller.handedOver⟩)).2.2.view = _
    rw [hserve, hview]

theorem Inv.view_run (h : Inv path shared q s) (hq : ∀ i, q i ≠ .close) {i : ι} {t : Tables}
    (hview : (s.flights i).caller.view = .reading t) (moves : List (Move ι)) :
    ((s.run moves).flights i).caller.view = .reading t := by
  induction moves generalizing s with
  | nil => exact hview
  | cons m moves ih => exact ih (h.move hq m) (h.view_move hview m)

end System

/-! ## Records of one email -/

section Records

variable {shared : Shared} {gone : Bool} {email : String}

theorem find?_finished {users : KeyTable String Bytes} {name email' : String} {previous next : ItemSet String}
    {event : Log.Event} (h : users.find? email = shared.tables.users.find? email) :
    (finished shared gone users name email' previous next event).state.1.tables.users.find? email =
      shared.tables.users.find? email := by
  cases gone with
  | true => rfl
  | false => exact h

/-- What is left of an operation once its answer is put into form. -/
theorem run_done (s : Operation Unit) (st : Shared × Caller) :
    (do s; return Answer.done : Operation Answer).run serve st =
      ⟨(s.run serve st).answer.map fun _ => .done, (s.run serve st).state, (s.run serve st).events⟩ := by
  rw [run_bind, Outcome.andThen]
  cases (s.run serve st).answer with
  | ok _ => simp [Except.map]
  | error e => rfl

/-- A request that is to change one record leaves the others. -/
theorem find?_run_of_ne {q : Request} {email' : String} (hq : q.mutated? = some email') (hne : email ≠ email')
    (hopen : shared.isOpen = true) (path : String) (caller : Caller) :
    ((ofRequest path q).run serve (shared, caller)).state.1.tables.users.find? email =
      shared.tables.users.find? email := by
  cases hat : Roll.answerAtOnce? q with
  | some a => rw [run_atOnce hat]
  | none =>
    obtain ⟨view, gone, handed⟩ := caller
    cases q with
    | create u =>
      cases hq
      have hu : u.unfit? = none := by simpa [Roll.answerAtOnce?] using hat
      rw [ofRequest, run_done, run_createUser _ _ _ hu hopen]
      split
      · rfl
      · exact find?_finished (by rw [KeyTable.find?_insert, if_neg hne])
    | update u =>
      cases hq
      have hu : u.unfit? = none := by simpa [Roll.answerAtOnce?] using hat
      rw [ofRequest, run_done, run_updateUser _ _ _ hu hopen]
      split
      · rfl
      · split
        · rfl
        · exact find?_finished (by rw [KeyTable.find?_insert, if_neg hne])
    | delete email' =>
      cases hq
      have he : unfitEmail? email' = none := by simpa [Roll.answerAtOnce?] using hat
      rw [ofRequest, run_done, run_deleteUser _ _ _ he hopen]
      split
      · rfl
      · split
        · rfl
        · exact find?_finished (by rw [KeyTable.find?_erase, if_neg hne])
    | _ => cases hq

end Records

/-! ## Creating one user -/

/-- A fit user is created if the email is not taken yet; afterwards it is. -/
theorem perform_create {s : Store} (hopen : s.shared.isOpen = true) {u : User} (hu : u.unfit? = none) :
    (s.perform (.create u)).answer =
        (if (s.shared.tables.users.find? u.email).isSome then .error .userAlreadyExists else .ok .done) ∧
      ((s.perform (.create u)).state.shared.tables.users.find? u.email).isSome = true := by
  simp only [Store.perform, Store.play, ofRequest, run_done, Caller.waiting, run_createUser _ _ _ hu hopen]
  split
  · rename_i htaken
    exact ⟨rfl, htaken⟩
  · exact ⟨rfl, by simp [finished, KeyTable.find?_insert]⟩

namespace System

section Race

variable {ι : Type} {path : String} {shared : Shared} {q : ι → Request} {s : System ι} {email : String}

/-- The email is taken once a call to create its user had its turn. -/
theorem isSome_inTurn (hq : ∀ i, q i ≠ .close) (hopen : shared.isOpen = true)
    (habsent : shared.tables.users.find? email = none)
    (hcreate : ∀ i, (q i).mutated? = some email → ∃ u, q i = .create u ∧ u.unfit? = none)
    {before : List ι} (hmutation : ∀ i ∈ before, (q i).isMutation = true) :
    ((inTurn path shared q before).shared.tables.users.find? email).isSome = true ↔
      ∃ i ∈ before, (q i).mutated? = some email := by
  induction before using List.reverseRecOn with
  | nil => simp [inTurn, habsent]
  | append_singleton before i ih =>
    have hopen' : (inTurn path shared q before).shared.isOpen = true := (inTurn_isOpen hq before).trans hopen
    have ih := ih fun j hj => hmutation j (by simp [hj])
    rw [inTurn_concat]
    by_cases hi : (q i).mutated? = some email
    · obtain ⟨u, hqi, hu⟩ := hcreate i hi
      have hemail : u.email = email := by simpa [hqi, Request.mutated?] using hi
      refine iff_of_true ?_ ⟨i, by simp, hi⟩
      rw [hqi, ← hemail]
      exact (perform_create hopen' hu).2
    · obtain ⟨email', hqi⟩ := Option.isSome_iff_exists.1 (hmutation i (by simp))
      have hne : email ≠ email' := by
        rintro rfl
        exact hi hqi
      simp only [Store.perform, Store.play, find?_run_of_ne hqi hne hopen', ih, List.mem_append, List.mem_singleton]
      constructor
      · rintro ⟨j, hj, hqj⟩
        exact ⟨j, .inl hj, hqj⟩
      · rintro ⟨j, hj | rfl, hqj⟩
        · exact ⟨j, hj, hqj⟩
        · exact absurd hqj hi

/-- The calls that are to change the record of an email create its user, which is fit, and were all
answered with their callers there. -/
structure Race (q : ι → Request) (email : String) (s : System ι) : Prop where
  create (i : ι) : (q i).mutated? = some email → ∃ u, q i = .create u ∧ u.unfit? = none
  present (i : ι) : (q i).mutated? = some email → (s.flights i).caller.gone = false
  answered (i : ι) : (q i).mutated? = some email → (s.flights i).answer?.isSome = true

/-- Whether a call of a race was done depends on whether another one was before it. -/
theorem Inv.race_answer (h : Inv path shared q s) (hq : ∀ i, q i ≠ .close) (hopen : shared.isOpen = true)
    (habsent : shared.tables.users.find? email = none) (hrace : Race q email s) {i : ι}
    (hi : (q i).mutated? = some email) :
    ∃ before, before <+: s.commits ∧
      ((∃ j ∈ before, (q j).mutated? = some email) ∧ (s.flights i).answer? = some (.error .userAlreadyExists) ∧
          i ∉ s.commits ∨
        (¬ ∃ j ∈ before, (q j).mutated? = some email) ∧ (s.flights i).answer? = some (.ok .done) ∧
          before ++ [i] <+: s.commits) := by
  obtain ⟨u, hqi, hu⟩ := hrace.create i hi
  have hemail : u.email = email := by simpa [hqi, Request.mutated?] using hi
  obtain ⟨a, ha⟩ := Option.isSome_iff_exists.1 (hrace.answered i hi)
  obtain ⟨place, effect⟩ := h.answered ha
  rcases place with ⟨-, hgone⟩ | ⟨before, hbefore, hmine, hanswer⟩
  · rw [hrace.present i hi] at hgone
    cases hgone
  have htaken : ((inTurn path shared q before).shared.tables.users.find? email).isSome = true ↔
      ∃ j ∈ before, (q j).mutated? = some email :=
    isSome_inTurn hq hopen habsent hrace.create fun j hj => h.mutation (hbefore.subset hj)
  rw [hqi, (perform_create ((inTurn_isOpen hq before).trans hopen) hu).1, hemail] at hanswer
  refine ⟨before, hbefore, ?_⟩
  rw [← htaken]
  split at hanswer
  · rename_i hsome
    exact .inl ⟨hsome, by rw [ha, hanswer], fun hi' => by simp [hanswer] at effect; exact effect hi'⟩
  · rename_i hnone
    exact .inr ⟨hnone, by rw [ha, hanswer], hmine (effect.2 ⟨by rw [hqi]; rfl, _, hanswer⟩)⟩

/-- One call of a race is done and the others are told that the user is there. -/
theorem Inv.race (h : Inv path shared q s) (hq : ∀ i, q i ≠ .close) (hopen : shared.isOpen = true)
    (habsent : shared.tables.users.find? email = none) (hrace : Race q email s)
    (hsome : ∃ i, (q i).mutated? = some email) :
    ∃ i, (q i).mutated? = some email ∧ (s.flights i).answer? = some (.ok .done) ∧
      ∀ j, (q j).mutated? = some email → j ≠ i → (s.flights j).answer? = some (.error .userAlreadyExists) := by
  have hanswer (i : ι) (hi : (q i).mutated? = some email) := h.race_answer hq hopen habsent hrace hi
  have hdone : ∃ i, (q i).mutated? = some email ∧ i ∈ s.commits := by
    obtain ⟨i, hi⟩ := hsome
    obtain ⟨before, hbefore, ⟨⟨j, hj, hqj⟩, -⟩ | ⟨-, -, hmine⟩⟩ := hanswer i hi
    · exact ⟨j, hqj, hbefore.subset hj⟩
    · exact ⟨i, hi, hmine.subset (by simp)⟩
  obtain ⟨i, hi, hcommit⟩ := hdone
  obtain ⟨before, -, ⟨-, -, hnew⟩ | ⟨hfirst, hok, hplace⟩⟩ := hanswer i hi
  · exact absurd hcommit hnew
  refine ⟨i, hi, hok, fun j hj hne => ?_⟩
  obtain ⟨before', -, ⟨-, herror, -⟩ | ⟨hfirst', -, hplace'⟩⟩ := hanswer j hj
  · exact herror
  -- of two that were done, each would be before the other
  exfalso
  have hapart {l l' : List ι} {a b : ι} (hpre : l ++ [a] <+: l' ++ [b]) (hab : a ≠ b) : a ∈ l' := by
    rcases List.prefix_concat_iff.1 hpre with heq | hpre'
    · exact absurd (List.append_inj' heq rfl).2 (by simpa using hab)
    · exact hpre'.subset (by simp)
  rcases List.prefix_or_prefix_of_prefix hplace hplace' with hpre | hpre
  · exact hfirst' ⟨i, hapart hpre hne.symm, hi⟩
  · exact hfirst ⟨j, hapart hpre hne, hj⟩

end Race

/-! ## All calls at once -/

variable {ι : Type} {path : String} {shared : Shared} {q : ι → Request} {s : System ι}

variable (path shared q) in
/-- The calls might have been made one after another, those that were committed in the order of their
commits. -/
structure Serial (s : System ι) : Prop where
  once : s.commits.Nodup
  mutation (i : ι) : i ∈ s.commits → (q i).isMutation = true
  shared_eq : s.shared = (inTurn path shared q s.commits).shared
  answered (i : ι) (a : Except StoreError Answer) :
    (s.flights i).answer? = some a → Answered path shared q s i a
  /-- A call that reads sees the tables of one place of the order, where it answers. -/
  sight (i : ι) (t : Tables) : (s.flights i).caller.view = .reading t →
    ∃ before, before <+: s.commits ∧ t = (inTurn path shared q before).shared.tables ∧
      ∀ a, (s.flights i).answer? = some a → a = ((inTurn path shared q before).perform (q i)).answer

theorem Inv.serial (h : Inv path shared q s) : Serial path shared q s where
  once := h.once
  mutation _ := h.mutation
  shared_eq := h.shared_eq
  answered _ _ := h.answered
  sight i t hview := by
    obtain ⟨-, before, place, ht, onWay⟩ := (h.status i).of_reading hview
    refine ⟨before, place, ht, fun a ha => ?_⟩
    rw [← onWay.1, Flight.run_of_answer ha]

variable [DecidableEq ι]

/-- Calls at the same time, in any order of their steps and with any callers going away at any
moment: the store and the answers are always those of the committed calls one after another, a call
that reads sees one state to its end, each of finitely many calls is answered if its caller stays,
and of the creations of one user that is not there yet one is done. -/
theorem calls_serial (path : String) (shared : Shared) (q : ι → Request) (hq : ∀ i, q i ≠ .close) :
    (∀ moves, Serial path shared q ((start path shared q).run moves)) ∧
      (∀ moves moves' i t, (((start path shared q).run moves).flights i).caller.view = .reading t →
        (((start path shared q).run (moves ++ moves')).flights i).caller.view = .reading t) ∧
      (Finite ι → ∀ next : Nat → Move ι, (∀ i n, ∃ m, n ≤ m ∧ next m = .advance i) →
        ∀ i, (∀ n, next n ≠ .leave i) → ∃ n, (((start path shared q).upTo next n).flights i).answer?.isSome = true) ∧
      ∀ moves email, shared.isOpen = true → shared.tables.users.find? email = none →
        Race q email ((start path shared q).run moves) → (∃ i, (q i).mutated? = some email) →
        ∃ i, (q i).mutated? = some email ∧
          (((start path shared q).run moves).flights i).answer? = some (.ok .done) ∧
          ∀ j, (q j).mutated? = some email → j ≠ i →
            (((start path shared q).run moves).flights j).answer? = some (.error .userAlreadyExists) := by
  have hinv (moves : List (Move ι)) : Inv path shared q ((start path shared q).run moves) := inv_run hq moves
  refine ⟨fun moves => (hinv moves).serial, fun moves moves' i t hview => ?_, fun _ next hfair i hstay => ?_,
    fun moves email hopen habsent hrace hsome => (hinv moves).race hq hopen habsent hrace hsome⟩
  · have happend : (start path shared q).run (moves ++ moves') = ((start path shared q).run moves).run moves' :=
      List.foldl_append
    rw [happend]
    exact (hinv moves).view_run hq hview moves'
  · exact exists_answer (inv_start hq) hq hfair hstay rfl

/-- Two calls create one user while a third one lists the users from before. -/
theorem calls_serial_of_two_creations :
    let q : Fin 3 → Request
      | 0 => .create ⟨"ada@example.org", "Ada", ["admin"]⟩
      | 1 => .create ⟨"ada@example.org", "", []⟩
      | 2 => .users
    let begun := start "users.redb" ⟨true, .empty⟩ q
    let turns := (List.replicate 14 ([0, 1, 2] : List (Fin 3))).flatten.map Move.advance
    let s := begun.run ([.advance 2, .advance 2, .advance 2] ++ turns)
    let next (n : Nat) : Move (Fin 3) := .advance (Fin.ofNat 3 n)
    (∀ i, q i ≠ .close) ∧ Serial "users.redb" ⟨true, .empty⟩ q s ∧ (s.flights 2).caller.view = .reading .empty ∧
      (∃ n, ((begun.upTo next n).flights 0).answer?.isSome = true) ∧
      ∃ i, (q i).mutated? = some "ada@example.org" ∧ (s.flights i).answer? = some (.ok .done) ∧
        ∀ j, (q j).mutated? = some "ada@example.org" → j ≠ i →
          (s.flights j).answer? = some (.error .userAlreadyExists) := by
  intro q begun turns s next
  simp only [s, begun]
  have hq : ∀ i, q i ≠ .close := by decide
  obtain ⟨hserial, hview, hanswer, hrace⟩ := calls_serial "users.redb" ⟨true, .empty⟩ q hq
  have hfair (i : Fin 3) (n : Nat) : ∃ m, n ≤ m ∧ next m = .advance i :=
    ⟨3 * n + i, by omega, congrArg Move.advance (by ext; simp [Fin.ofNat])⟩
  refine ⟨hq, hserial _, hview _ turns 2 .empty rfl, hanswer inferInstance next hfair 0 nofun,
    hrace _ _ rfl rfl ⟨?_, ?_, ?_⟩ ⟨0, rfl⟩⟩
  · intro i hi
    match i with
    | 0 | 1 => exact ⟨_, rfl, by decide +kernel⟩
    | 2 => cases hi
  · decide +kernel
  · decide +kernel

end System

end Roster.Embedded
