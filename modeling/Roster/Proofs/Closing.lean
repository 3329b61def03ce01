import Roster.Proofs.Reachable

/-!
# Closed stores

A store that was closed shows nothing of what it holds until it is opened again. The form of a request
is looked at before the store is: what is unfit is refused for that, and nobody holds a role with NUL,
whether the store is open or not. Everything else is told that the store is closed.
-/

namespace Roster

namespace Roll

variable {m : Medium} {r : Roll} {q : Request}

theorem serve_closed (hclosed : r.isOpen = false) (q : Request) :
    r.serve q = ((answerAtOnce? q).getD (.error .closed), r) := by
  unfold serve
  cases answerAtOnce? q with
  | some a => rfl
  | none => simp [hclosed]

/-- No medium refuses anything of a closed roll. -/
theorem serveOn_closed (hclosed : r.isOpen = false) (m : Medium) (q : Request) :
    r.serveOn m q = ((answerAtOnce? q).getD (.error .closed), r) := by
  rw [serveOn_eq_serve hclosed, serve_closed hclosed]

/-- An open roll is closed on every medium. -/
theorem serveOn_close (m : Medium) (hopen : r.isOpen = true) :
    r.serveOn m .close = (.ok .done, { r with isOpen := false }) := by
  rw [serveOn_of_none rfl, serve_eq_answer rfl hopen, answer]

/-- Only an open roll can be closed. -/
theorem of_serveOn_close (h : (r.serveOn m .close).1 = .ok .done) : r.isOpen = true := by
  cases hopen : r.isOpen with
  | true => rfl
  | false =>
    rw [serveOn_closed hopen] at h
    cases h

/-- What a request gets for its form alone is the reason why it is unfit, or the holders of a role that
nobody can hold. -/
theorem answerAtOnce?_eq_some {a : Except StoreError Answer} (h : answerAtOnce? q = some a) :
    a = .ok (.users []) ∨ ∃ reason : Unfit, a = .error reason.toError := by
  cases q with
  | create u | update u | delete email | user email =>
    obtain ⟨reason, -, rfl⟩ := Option.map_eq_some_iff.1 h
    exact .inr ⟨reason, rfl⟩
  | usersByRole role =>
    simp only [answerAtOnce?] at h
    split at h <;> cases h
    exact .inl rfl
  | users | liveRoles | memberCount | close => cases h

end Roll

namespace Session

open Files Settings

variable {s : Session} {m : Medium} {r : Roll}

namespace ShowsEither

/-- Until it is opened again, a closed store shows the same roll whatever is asked of it. -/
theorem after_closed (h : ShowsEither s m r) (hclosed : r.isOpen = false) {move : Move} (hmove : move ≠ .reopen) :
    ShowsEither (s.after move) m r := by
  cases move with
  | reopen => exact absurd rfl hmove
  | request q =>
    have hafter := (h.perform q).2
    rwa [Roll.serveOn_closed hclosed] at hafter
  | abandoned q =>
    cases h with
    | tables h =>
      have hafter := h.abandon q
      rw [Roll.serve_closed hclosed, or_self] at hafter
      exact .tables hafter
    | rows h =>
      have hsame : (if q = .close then { r with isOpen := false } else r) = r := by
        rw [← hclosed, ite_self]
      exact .rows (hsame ▸ h.abandon q)

theorem afterAll_closed (h : ShowsEither s m r) (hclosed : r.isOpen = false) {moves : List Move}
    (hmoves : .reopen ∉ moves) : ShowsEither (s.afterAll moves) m r := by
  induction moves generalizing s with
  | nil => exact h
  | cons move moves ih =>
    rw [List.mem_cons, not_or] at hmoves
    exact ih (h.after_closed hclosed (Ne.symm hmoves.1)) hmoves.2

end ShowsEither

/-- Once a store of either kind has been closed, and until it is opened again, a request of good form is
told that it is closed, whatever was asked meanwhile. What was answered for its form alone before is
answered in the same way, and tells nothing of what the store holds. -/
theorem closed_answers (hs : Reachable s) (hclose : (s.perform .close).answer = some (.ok .done))
    {later : List Move} (hlater : .reopen ∉ later) (q : Request) :
    let answer := (((s.perform .close).session.afterAll later).perform q).answer
    (Roll.answerAtOnce? q = none → answer = some (.error .closed)) ∧
      ∀ a, Roll.answerAtOnce? q = some a →
        answer = some a ∧ (a = .ok (.users []) ∨ ∃ reason : Unfit, a = .error reason.toError) := by
  intro answer
  obtain ⟨m, r, h⟩ := hs.shows
  rw [(h.perform .close).1] at hclose
  have hopen := Roll.of_serveOn_close (Option.some.inj hclose)
  -- closing leaves a closed roll, which all later requests leave alone
  have hclosed : ShowsEither (s.perform .close).session m { r with isOpen := false } :=
    (h.performed (Roll.serveOn_close m hopen)).2
  have hanswer := ((hclosed.afterAll_closed rfl hlater).perform q).1
  rw [Roll.serveOn_closed rfl] at hanswer
  refine ⟨fun hq => ?_, fun a hq => ⟨?_, Roll.answerAtOnce?_eq_some hq⟩⟩
  · rw [hq, Option.getD_none] at hanswer
    exact hanswer
  · rw [hq, Option.getD_some] at hanswer
    exact hanswer

/-- A lookup, an abandoned deletion and a second closing later, for instance. -/
theorem closed_answers_later :
    let s := (start { StoreSettings.default with url := "sqlite://roster.db?mode=rwc" } .empty).session
    let later : List Move := [.request (.usersByRole "a"), .abandoned (.delete "ann"), .request .close]
    (s.perform .close).answer = some (.ok .done) ∧ .reopen ∉ later ∧
      (((s.perform .close).session.afterAll later).perform .users).answer = some (.error .closed) := by
  intro s later
  have hs : Reachable s := .start _ _ rfl (Store.IsNew.relational (.file ["roster.db"]) false)
  have hlater : .reopen ∉ later := by simp [later]
  exact ⟨rfl, hlater, (closed_answers hs rfl hlater .users).1 rfl⟩

/-- Not every request is told so: stores of both kinds that are closed still find that nobody holds a
role with NUL, and that a user without an email is unfit. -/
theorem closed_answers_at_once :
    let embedded := (start { StoreSettings.default with url := "redb://roster.redb" } .empty).session
    let relational := (start { StoreSettings.default with url := "sqlite://roster.db?mode=rwc" } .empty).session
    (Reachable embedded ∧ (embedded.perform .close).answer = some (.ok .done) ∧
        ((embedded.perform .close).session.perform (.usersByRole "a\x00b")).answer = some (.ok (.users [])) ∧
        ((embedded.perform .close).session.perform (.user "")).answer =
          some (.error (.validation "email is required"))) ∧
      Reachable relational ∧ (relational.perform .close).answer = some (.ok .done) ∧
        ((relational.perform .close).session.perform (.usersByRole "a\x00b")).answer = some (.ok (.users [])) ∧
        ((relational.perform .close).session.perform (.user "")).answer =
          some (.error (.validation "email is required")) := by
  intro embedded relational
  exact ⟨⟨.start _ _ rfl (Store.IsNew.embedded "roster.redb" ["roster.redb"]), rfl, rfl, rfl⟩,
    .start _ _ rfl (Store.IsNew.relational (.file ["roster.db"]) false), rfl, rfl, rfl⟩

end Session

end Roster
