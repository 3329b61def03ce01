import Roster.Proofs.Independence
import Roster.Proofs.Relational.Concurrency
import Roster.Proofs.Relational.Pool
import Roster.Proofs.Relational.Progress

/-!
# What callers of a database see of one another

The invariant of the system in terms of answers and rows: the order in which calls take effect is one in
which they could have been made one after another, and the rows of a user are those of the last call that
changed them.
-/

namespace Roster

/-- A mutation that is done leaves what it says of its email. -/
theorem Roll.find?_serve_done {r : Roll} {q : Request} {email : String} {a : Answer}
    (hq : q.mutated? = some email) (h : (r.serve q).1 = .ok a) :
    (r.serve q).2.entries.find? email = q.stored?.map .ofUser := by
  have hatOnce : answerAtOnce? q = none := by
    cases hat : answerAtOnce? q with
    | none => rfl
    | some a' =>
      rw [serve, hat] at h
      cases q with
      | create u | update u | delete email => simp_all [answerAtOnce?]
      | _ => cases hq
  have hopen : r.isOpen = true := by
    by_contra hclosed
    simp [serve, hatOnce, hclosed] at h
  rw [serve_eq_answer hatOnce hopen] at h ⊢
  cases q with
  | create u =>
    cases hq
    rw [answer] at h ⊢
    cases hx : r.entries.find? u.email with
    | none => simp [put, KeyTable.find?_insert, Request.stored?]
    | some x => simp [hx] at h
  | update u =>
    cases hq
    rw [answer] at h ⊢
    cases hx : r.entries.find? u.email with
    | none => simp [hx] at h
    | some x => simp [put, KeyTable.find?_insert, Request.stored?]
  | delete email =>
    cases hq
    rw [answer] at h ⊢
    cases hx : r.entries.find? email with
    | none => simp [hx] at h
    | some x => simp [drop, KeyTable.find?_erase, Request.stored?]
  | _ => cases hq

theorem Roll.find?_serveOn_done {m : Medium} {r : Roll} {q : Request} {email : String} {a : Answer}
    (hq : q.mutated? = some email) (h : (r.serveOn m q).1 = .ok a) :
    (r.serveOn m q).2.entries.find? email = q.stored?.map .ofUser := by
  have hsame := serveOn_of_ok h
  rw [hsame] at h ⊢
  exact find?_serve_done hq h

namespace Relational

open Script Operation

/-- The rows of an email are those of a user, whose role set is neither more nor less; or there are none. -/
def Database.HasRows (db : Database) (email : String) : Option User → Prop
  | some u => db.users.find? email = some (fullNameColumn u) ∧
      ∀ role, db.roles.has (email, role) = true ↔ role ∈ u.roles
  | none => db.users.find? email = none ∧ ∀ role, db.roles.has (email, role) = false

theorem Keeps.hasRows {db : Database} {entries : Entries} (h : Keeps db entries) {email : String} {u? : Option User}
    (hu : entries.find? email = u?.map .ofUser) : db.HasRows email u? := by
  cases u? with
  | none =>
    refine ⟨by rw [h.users, hu]; rfl, fun role => ?_⟩
    rw [Bool.eq_false_iff, Ne, h.roles, hu]
    simp
  | some u =>
    refine ⟨by rw [h.users, hu]; rfl, fun role => ?_⟩
    rw [h.roles, hu]
    simp

/-! ## Answers -/

theorem Flight.run_of_answer {f : Flight} {a : Except StoreError Answer} (h : f.answer? = some a)
    (st : Shared × Draft) : (f.rest.run serve st).answer = a := by
  unfold Flight.answer? at h
  split at h <;> cases h
  · rename_i hrest
    rw [hrest]
    rfl
  · rename_i hrest
    rw [hrest]
    rfl

theorem Flight.mayAnswer_of_answer {f : Flight} {v : Answer} {p : Phase} (h : f.answer? = some (.ok v))
    (phase : Follows (fun _ => Phase.mayAnswer) f.rest p) : p.mayAnswer := by
  unfold Flight.answer? at h
  split at h <;> cases h
  rename_i hrest
  rw [hrest] at phase
  exact phase

namespace System

variable {ι : Type} {shared : Shared} {q : ι → Request} {earlier : ι → List ι} {s : System ι} {i : ι}

variable (shared q) in
/-- The answer of a call in the order in which calls take effect, the given ones having done so when it was
made. -/
structure Answered (early : List ι) (s : System ι) (i : ι) (a : Except StoreError Answer) : Prop where
  /-- Unless one of its statements failed, a call answers as it does at a place of the order, which comes
  after those; at its own place if it has taken effect itself. -/
  place : ((s.flights i).struck = true ∧ ∃ e, a = .error e) ∨
    ∃ before, early <+: before ∧ before <+: s.commits ∧ (i ∈ s.commits → before ++ [i] <+: s.commits) ∧
      a = ((inTurn shared q before).perform (q i)).answer
  /-- What was to change something has taken effect if it was done, and not if it failed. -/
  effect : i ∈ s.commits ↔ (q i).isMutation = true ∧ ∃ v, a = .ok v

theorem Inv.answered (h : Inv shared q earlier s) {a : Except StoreError Answer}
    (ha : (s.flights i).answer? = some a) : Answered shared q (earlier i) s i a := by
  have hrun := Flight.run_of_answer ha
  -- a mutation that ended before its effect was there did not end well
  have heffect {p : Phase} (phase : Follows (fun _ => Phase.mayAnswer) (s.flights i).rest p) (new : i ∉ s.commits)
      (hp : (q i).isMutation = true → ¬ p.mayAnswer) : i ∈ s.commits ↔ (q i).isMutation = true ∧ ∃ v, a = .ok v := by
    refine iff_of_false new ?_
    rintro ⟨hmutation, v, rfl⟩
    exact hp hmutation (Flight.mayAnswer_of_answer ha phase)
  cases h.status i with
  | ahead phase draft new onWay =>
    -- refused at the door, which it would be anywhere in the order
    refine ⟨.inr ⟨s.commits, h.since i, List.prefix_refl _, fun hi => absurd hi new, ?_⟩, heffect phase new ?_⟩
    · rw [← (onWay _).1, hrun]
    · intro hmutation hanswer
      exact Bool.false_ne_true (hanswer.symm.trans hmutation)
  | inside d phase isMutation draft goes =>
    rw [ha] at goes
    cases goes
  | told before since place p hp phase draft new answer =>
    refine ⟨.inr ⟨before, since, place, fun hi => absurd hi new, ?_⟩, heffect phase new ?_⟩
    · rw [← answer (shared, none), hrun]
    · intro hmutation
      rcases hp with ⟨-, hread⟩ | rfl
      · exact absurd (hread.symm.trans hmutation) Bool.false_ne_true
      · exact id
  | committed before since place phase draft answer =>
    have hi : i ∈ s.commits := place.subset (by simp)
    obtain ⟨hmutation, v, hv⟩ := h.granted before i place
    have hanswer : a = ((inTurn shared q before).perform (q i)).answer := by rw [← answer (shared, none), hrun]
    exact ⟨.inr ⟨before, since, (List.prefix_append _ _).trans place, fun _ => place, hanswer⟩,
      iff_of_true hi ⟨hmutation, v, hanswer.trans hv⟩⟩
  | struck e ended isStruck draft new =>
    have hae : a = .error e := by
      rw [Flight.answer?, ended] at ha
      exact (Option.some.inj ha).symm
    exact ⟨.inl ⟨isStruck, e, hae⟩, iff_of_false new (by simp [hae])⟩
  | dropped isGone goes =>
    rw [ha] at goes
    cases goes

/-! ## Rows -/

/-- What a roll in a medium becomes when requests are served in turn. -/
def rollInTurn (m : Medium) (r : Roll) (q : ι → Request) (order : List ι) : Roll :=
  order.foldl (fun r i => (r.serveOn m (q i)).2) r

theorem rollInTurn_append (m : Medium) (r : Roll) (q : ι → Request) (before after : List ι) :
    rollInTurn m r q (before ++ after) = rollInTurn m (rollInTurn m r q before) q after := List.foldl_append

theorem shows_inTurn {r : Roll} (h : Shows shared r) (order : List ι) :
    Shows (inTurn shared q order).shared (rollInTurn (.relational shared.readOnly) r q order) ∧
      (inTurn shared q order).shared.readOnly = shared.readOnly := by
  induction order using List.reverseRecOn with
  | nil => exact ⟨h, rfl⟩
  | append_singleton before i ih =>
    obtain ⟨hbefore, hreadOnly⟩ := ih
    obtain ⟨-, hshows, hsame⟩ := hbefore.serves (q i)
    rw [inTurn_concat, rollInTurn_append]
    rw [hreadOnly] at hshows hsame
    exact ⟨hshows, hsame⟩

/-- What is done with other emails does not matter. -/
theorem find?_rollInTurn (m : Medium) (r : Roll) {order : List ι} {email : String}
    (hmutation : ∀ i ∈ order, (q i).isMutation = true) (hother : ∀ i ∈ order, (q i).mutated? ≠ some email) :
    (rollInTurn m r q order).entries.find? email = r.entries.find? email := by
  induction order generalizing r with
  | nil => rfl
  | cons i order ih =>
    obtain ⟨hi, hmutation⟩ := List.forall_mem_cons.1 hmutation
    obtain ⟨hne, hother⟩ := List.forall_mem_cons.1 hother
    obtain ⟨email', hq⟩ := Option.isSome_iff_exists.1 hi
    have hne' : email ≠ email' := by
      rintro rfl
      exact hne hq
    exact (ih _ hmutation hother).trans (Roll.find?_serveOn_of_ne hq hne' m r)

variable (shared q) in
/-- The rows of every email are those of the last call that changed them. -/
structure LastCounts (s : System ι) : Prop where
  last (email : String) (before after : List ι) (i : ι) : s.commits = before ++ i :: after →
    (q i).mutated? = some email → (∀ j ∈ after, (q j).mutated? ≠ some email) →
    s.shared.database.HasRows email (q i).stored?
  untouched (email : String) : (∀ i ∈ s.commits, (q i).mutated? ≠ some email) →
    s.shared.database.users.find? email = shared.database.users.find? email ∧
      ∀ role, s.shared.database.roles.has (email, role) = shared.database.roles.has (email, role)

theorem Inv.isMutation (h : Inv shared q earlier s) (hi : i ∈ s.commits) : (q i).isMutation = true := by
  obtain ⟨before, after, hsplit⟩ := List.append_of_mem hi
  exact (h.granted before i ⟨after, by simp [hsplit]⟩).1

theorem Inv.lastCounts (h : Inv shared q earlier s) {r : Roll} (hr : Shows shared r) : LastCounts shared q s where
  last email before after i hsplit hq hafter := by
    have hplace : before ++ [i] <+: s.commits := ⟨after, by simp [hsplit]⟩
    obtain ⟨-, a, ha⟩ := h.granted before i hplace
    obtain ⟨hbefore, hreadOnly⟩ := shows_inTurn (q := q) hr before
    have hserves := hbefore.serves (q i)
    rw [hreadOnly] at hserves
    have hdone := hserves.answer.symm.trans ha
    obtain ⟨hend, -⟩ := shows_inTurn (q := q) hr s.commits
    rw [h.shared_eq]
    refine hend.keeps.hasRows ?_
    rw [hsplit, rollInTurn_append]
    have hmutation : ∀ j ∈ after, (q j).isMutation = true := fun j hj => h.isMutation (by simp [hsplit, hj])
    exact (find?_rollInTurn _ _ hmutation hafter).trans (Roll.find?_serveOn_done hq hdone)
  untouched email hother := by
    obtain ⟨hend, -⟩ := shows_inTurn (q := q) hr s.commits
    have hsame := find?_rollInTurn (.relational shared.readOnly) r (fun i hi => h.isMutation hi) hother
    rw [h.shared_eq]
    refine ⟨by rw [hend.keeps.users, hr.keeps.users, hsame], fun role => ?_⟩
    rw [Bool.eq_iff_iff, hend.keeps.roles, hr.keeps.roles, hsame]

/-! ## All calls at once -/

variable (shared q) in
/-- The rows are those of the calls that took effect, one after another in the order in which they did. Each
of them was granted. -/
structure Serial (s : System ι) : Prop where
  once : s.commits.Nodup
  granted (before : List ι) (i : ι) : before ++ [i] <+: s.commits →
    (q i).isMutation = true ∧ ∃ v, ((inTurn shared q before).perform (q i)).answer = .ok v
  shared_eq : s.shared = (inTurn shared q s.commits).shared

theorem Inv.serial (h : Inv shared q earlier s) : Serial shared q s where
  once := h.once
  granted := h.granted
  shared_eq := h.shared_eq

variable [DecidableEq ι]

theorem move_of_isOver (h : (s.flights i).isOver = true) {m : Move ι} (hm : m.caller = i) :
    s.move m = s ∨ m = .leave i := by
  subst hm
  unfold Flight.isOver at h
  cases m with
  | leave i => exact .inr rfl
  | advance i | stumble i fault =>
    refine .inl ?_
    dsimp only [move, advance, stumble, Move.caller] at h ⊢
    cases hgone : (s.flights i).gone with
    | true => rfl
    | false =>
      cases hrest : (s.flights i).rest with
      | done a => rfl
      | fail e => rfl
      | report event rest => simp [hgone, Flight.answer?, hrest] at h
      | call c rest => simp [hgone, Flight.answer?, hrest] at h

/-- A call that is over stays so, with its effect or without it. -/
theorem over_move (h : (s.flights i).isOver = true) (m : Move ι) :
    ((s.move m).flights i).isOver = true ∧ (i ∈ (s.move m).commits ↔ i ∈ s.commits) := by
  by_cases hm : m.caller = i
  · rcases move_of_isOver h hm with hsame | rfl
    · rw [hsame]
      exact ⟨h, Iff.rfl⟩
    · refine ⟨?_, Iff.rfl⟩
      rw [move, land_flights, if_pos rfl, settled_of_draft rfl]
      rfl
  · obtain ⟨hflight, hcommits⟩ := s.move_other (Ne.symm hm)
    rw [hflight]
    exact ⟨h, hcommits⟩

theorem over_run (h : (s.flights i).isOver = true) (moves : List (Move ι)) :
    i ∈ (s.run moves).commits ↔ i ∈ s.commits := by
  induction moves generalizing s with
  | nil => exact Iff.rfl
  | cons m moves ih =>
    obtain ⟨hover, hcommits⟩ := over_move h m
    exact (ih hover).trans hcommits

theorem struck_move {m : Move ι} (h : ((s.move m).flights i).struck = true) :
    (s.flights i).struck = true ∨ ∃ fault, m = .stumble i fault := by
  have hm := s.moved m
  generalize s.move m = s' at hm h
  have hland {j : ι} {shared : Shared} {f : Flight} {commits : List ι}
      (h : ((s.land j shared f commits).flights i).struck = true) :
      (s.flights i).struck = true ∨ i = j ∧ f.struck = true := by
    rw [land_flights] at h
    split at h
    · rename_i hij
      exact .inr ⟨hij, by simpa using h⟩
    · exact .inl h
  cases hm with
  | same => exact .inl h
  | connected j => exact .inl h
  | left j | reported j | served j =>
    rcases hland h with h | ⟨rfl, h⟩
    · exact .inl h
    · exact .inl h
  | struck j fault hm =>
    rcases hland h with h | ⟨rfl, -⟩
    · exact .inl h
    · exact .inr ⟨fault, hm⟩

/-- No statement of a call has failed unless one of the moves was that it did. -/
theorem struck_run {moves : List (Move ι)} (hs : (s.flights i).struck = false)
    (h : ((s.run moves).flights i).struck = true) : ∃ fault, Move.stumble i fault ∈ moves := by
  induction moves using List.reverseRecOn with
  | nil => exact absurd (hs.symm.trans h) Bool.false_ne_true
  | append_singleton moves m ih =>
    rw [run_append] at h
    rcases struck_move h with h | ⟨fault, rfl⟩
    · obtain ⟨fault, hfault⟩ := ih h
      exact ⟨fault, List.mem_append_left _ hfault⟩
    · exact ⟨fault, by simp⟩

/-- A call that makes its first step after some moves has its place after all that took effect in them. -/
theorem answered_of_made (hq : ∀ i, q i ≠ .close) {moves later : List (Move ι)} {i : ι}
    (hfirst : ∀ m ∈ moves, i ≠ m.caller) {a : Except StoreError Answer}
    (ha : (((start 1 shared q).run (moves ++ later)).flights i).answer? = some a) :
    Answered shared q ((start 1 shared q).run moves).commits ((start 1 shared q).run (moves ++ later)) i a := by
  obtain ⟨hflight, hcommits⟩ := (start 1 shared q).run_other hfirst
  have hmade := ((inv_start hq).run hq moves).made hq hflight fun hi => absurd (hcommits.1 hi) List.not_mem_nil
  rw [run_append] at ha ⊢
  have hanswered := (hmade.run hq later).answered ha
  rwa [Function.update_self] at hanswered

/-- Calls at the same time on a store on SQLite, in any order of their statements, with callers dropping
their calls and statements failing at any moment: the rows and the answers are always those of the calls
that took effect one after another, each answer at a place after what took effect before the call was
made; a call that was answered or dropped has its effect or never will; and the rows of a user are those
of the last call that changed them. Of finitely many calls each one whose caller stays is answered. -/
theorem statements_serial {settings : Settings.StoreSettings} (hsettings : OnSqlite settings) (shared : Shared)
    (q : ι → Request) (hq : ∀ i, q i ≠ .close) :
    let begun := start settings.poolBounds.1 shared q
    (∀ moves, Serial shared q (begun.run moves)) ∧
      (∀ moves later i a, (∀ m ∈ moves, i ≠ m.caller) →
        ((begun.run (moves ++ later)).flights i).answer? = some a →
        Answered shared q (begun.run moves).commits (begun.run (moves ++ later)) i a) ∧
      (∀ moves i, ((begun.run moves).flights i).struck = true → ∃ fault, Move.stumble i fault ∈ moves) ∧
      (∀ moves later i, ((begun.run moves).flights i).isOver = true →
        (i ∈ (begun.run (moves ++ later)).commits ↔ i ∈ (begun.run moves).commits)) ∧
      (∀ r, Shows shared r → ∀ moves, LastCounts shared q (begun.run moves)) ∧
      (Finite ι → ∀ next : Nat → Move ι, (∀ i n, ∃ m, n ≤ m ∧ next m = .advance i) →
        ∀ i, (∀ n, next n ≠ .leave i) → ∃ n, ((begun.upTo next n).flights i).answer?.isSome = true) := by
  rw [poolBounds_eq hsettings]
  intro begun
  have hinv (moves : List (Move ι)) : Inv shared q (fun _ => []) (begun.run moves) := (inv_start hq).run hq moves
  refine ⟨fun moves => (hinv moves).serial, fun moves later i a hfirst ha => answered_of_made hq hfirst ha,
    fun moves i => struck_run rfl, fun moves later i hover => ?_, fun r hr moves => (hinv moves).lastCounts hr,
    fun _ next hfair i hstay => exists_answer nofun Nat.one_pos hfair hstay rfl⟩
  rw [run_append]
  exact over_run hover later

/-- Two calls update the user that another one creates. The first is dropped right before it would commit;
the second is made after that, and the rows are those of its user. -/
theorem statements_serial_of_dropped_update :
    let settings : Settings.StoreSettings := { Settings.StoreSettings.default with url := "sqlite://roster.db?mode=rwc" }
    let q : Fin 3 → Request
      | 0 => .create ⟨"ada@example.org", "Ada", ["dev"]⟩
      | 1 => .update ⟨"ada@example.org", "", ["ops"]⟩
      | 2 => .update ⟨"ada@example.org", "Ada L.", ["qa"]⟩
    let begun := start settings.poolBounds.1 ⟨true, false, .new⟩ q
    let turns (n : Nat) (calls : List (Fin 3)) := (List.replicate n calls).flatten.map Move.advance
    let moves := turns 15 [0, 1] ++ [.leave 1]
    let s := begun.run (moves ++ turns 11 [2])
    OnSqlite settings ∧ (∀ i, q i ≠ .close) ∧ ((begun.run (turns 15 [0, 1])).flights 1).draft.isSome = true ∧
      Serial ⟨true, false, .new⟩ q s ∧ s.commits = [0, 2] ∧ 1 ∉ s.commits ∧
      Answered ⟨true, false, .new⟩ q (begun.run moves).commits s 2 (.ok .done) ∧ (s.flights 2).struck = false ∧
      s.shared.database.HasRows "ada@example.org" (some ⟨"ada@example.org", "Ada L.", ["qa"]⟩) ∧
      ∃ n, ((begun.upTo (fun n => .advance (Fin.ofNat 3 n)) n).flights 1).answer?.isSome = true := by
  intro settings q begun turns moves s
  simp only [s, begun]
  have hsettings : OnSqlite settings := by
    unfold settings
    exact ⟨⟨_, rfl⟩, by decide +kernel⟩
  have hq : ∀ i, q i ≠ .close := by decide
  have hnew : Shows ⟨true, false, .new⟩ .new := ⟨rfl, keeps_new⟩
  obtain ⟨hserial, hanswered, hstruck, hover, hlast, hends⟩ := statements_serial hsettings ⟨true, false, .new⟩ q hq
  have hcommits : ((start settings.poolBounds.1 ⟨true, false, .new⟩ q).run (moves ++ turns 11 [2])).commits = [0, 2] := by
    decide +kernel
  refine ⟨hsettings, hq, by decide +kernel, hserial _, hcommits, ?_, hanswered _ _ 2 _ ?_ (by decide +kernel), ?_,
    (hlast _ hnew _).last _ [0] [] 2 hcommits rfl nofun, hends inferInstance _ (fun i n => ?_) 1 nofun⟩
  · rw [hover moves (turns 11 [2]) 1 (by decide +kernel)]
    decide +kernel
  · simp [moves, turns, Move.caller]
  · rw [Bool.eq_false_iff]
    intro h
    obtain ⟨fault, hfault⟩ := hstruck _ 2 h
    simp [moves, turns] at hfault
  · exact ⟨3 * n + i, by omega, congrArg Move.advance (by ext; simp [Fin.ofNat])⟩

end System

end Relational

end Roster
