import Roster.Proofs.Script

/-!
# Engines that fail

A server whose state has a part that all callers share and a part of one caller is made to fail:
at any call, as often as one likes, and with any fault. A call that fails may leave the caller's own
part in disorder, but not the shared one. What holds whatever the engine replies is shown by rules
along the script, one for each way in which a script is put together.
-/

namespace Roster.Script

variable {ι : Type → Type} {φ ε α β σ τ : Type}

/-! ## Whatever the engine does -/

/-- What an engine may do at a call: the replies it may give and the states it may leave. -/
abbrev Behaviour (ι : Type → Type) (φ σ : Type) := {β : Type} → ι β → σ → Except φ β → σ → Prop

/-- Whatever the engine does, the script ends with an answer and a state that meet `post`. -/
def Ensures (may : Behaviour ι φ σ) (post : Except ε α → σ → Prop) : Script ι φ ε α → σ → Prop
  | done a, st => post (.ok a) st
  | fail e, st => post (.error e) st
  | report _ rest, st => Ensures may post rest st
  | call c rest, st => ∀ r st', may c st r st' → Ensures may post (rest r) st'

/-- `P` at the end of a script that answers, `Q` at the end of one that fails. -/
def either (P : α → σ → Prop) (Q : σ → Prop) : Except ε α → σ → Prop
  | .ok a, st => P a st
  | .error _, st => Q st

namespace Ensures

variable {may : Behaviour ι φ σ} {s : Script ι φ ε α} {f : α → Script ι φ ε β} {st : σ}
  {P : α → σ → Prop} {R : β → σ → Prop} {Q : σ → Prop}

theorem pure {a : α} (h : P a st) : Ensures may (either P Q) (pure a : Script ι φ ε α) st := h

theorem fail {e : ε} (h : Q st) : Ensures may (either P Q) (fail e : Script ι φ ε α) st := h

theorem report {P : Unit → σ → Prop} (event : Log.Event) (h : P () st) :
    Ensures may (either P Q) (Log.Reports.report event : Script ι φ ε Unit) st := h

theorem bind (h : Ensures may (either P Q) s st)
    (h' : ∀ a st, P a st → Ensures may (either R Q) (f a) st) :
    Ensures may (either R Q) (s >>= f) st := by
  show Ensures may (either R Q) (s.bind f) st
  induction s generalizing st with
  | done a => exact h' a st h
  | fail e => exact h
  | report event rest ih => exact ih h
  | call c rest ih => exact fun r st' hr => ih r (h r st' hr)

theorem ask {wrap : φ → ε} {c : ι α} (hok : ∀ a st', may c st (.ok a) st' → P a st')
    (herror : ∀ f st', may c st (.error f) st' → Q st') :
    Ensures may (either P Q) (Script.ask wrap c) st := by
  intro r st' hr
  cases r with
  | ok a => exact hok a st' hr
  | error f => exact herror f st' hr

theorem imp {post post' : Except ε α → σ → Prop} (h : Ensures may post s st)
    (himp : ∀ r st, post r st → post' r st) : Ensures may post' s st := by
  induction s generalizing st with
  | done a => exact himp _ _ h
  | fail e => exact himp _ _ h
  | report event rest ih => exact ih h
  | call c rest ih => exact fun r st' hr => ih r (h r st' hr)

/-- What is ensured holds of every run against a server that does what the engine may do. The server's
state may say more than the engine's. -/
theorem run {serve : Server ι φ τ} (view : τ → σ)
    (hserve : ∀ {γ : Type} (c : ι γ) t, may c (view t) (serve c t).1 (view (serve c t).2))
    {post : Except ε α → σ → Prop} {t : τ} (h : Ensures may post s (view t)) :
    post (s.run serve t).answer (view (s.run serve t).state) := by
  induction s generalizing t with
  | done a => exact h
  | fail e => exact h
  | report event rest ih => exact ih h
  | call c rest ih => exact ih _ (h _ _ (hserve c t))

end Ensures

/-! ## Failing calls -/

section Faulty

variable {ς π : Type}

/-- A server that fails where the plan says so: at the call of that number, with that fault, leaving
that of the caller's own part. -/
def faulty (serve : Server ι φ (ς × π)) (plan : Nat → Option (φ × (π → π))) : Server ι φ (Nat × ς × π) :=
  fun c (n, st) =>
    match plan n with
    | none => ((serve c st).1, n + 1, (serve c st).2)
    | some (f, damage) => (.error f, n + 1, st.1, damage st.2)

/-- Where nothing fails, the server is the one that was given. -/
theorem run_faulty_none (serve : Server ι φ (ς × π)) (s : Script ι φ ε α) (n : Nat) (st : ς × π) :
    let o := s.run (faulty serve fun _ => none) (n, st)
    o.answer = (s.run serve st).answer ∧ o.state.2 = (s.run serve st).state ∧
      o.events = (s.run serve st).events := by
  induction s generalizing n st with
  | done a => exact ⟨rfl, rfl, rfl⟩
  | fail e => exact ⟨rfl, rfl, rfl⟩
  | report event rest ih =>
    obtain ⟨hanswer, hstate, hevents⟩ := ih n st
    exact ⟨hanswer, hstate, congrArg (event :: ·) hevents⟩
  | call c rest ih => exact ih _ (n + 1) _

/-- What an engine may do if any call of it may fail, but not in the shared part. -/
def orFail (serve : Server ι φ (ς × π)) : Behaviour ι φ (ς × π) := fun c st r st' =>
  (r = (serve c st).1 ∧ st' = (serve c st).2) ∨ ((∃ f, r = .error f) ∧ st'.1 = st.1)

theorem faulty_orFail (serve : Server ι φ (ς × π)) (plan : Nat → Option (φ × (π → π))) (c : ι β)
    (t : Nat × ς × π) :
    orFail serve c t.2 (faulty serve plan c t).1 (faulty serve plan c t).2.2 := by
  obtain ⟨n, st⟩ := t
  simp only [orFail, faulty]
  cases plan n with
  | none => exact .inl ⟨rfl, rfl⟩
  | some fault => exact .inr ⟨⟨_, rfl⟩, rfl⟩

/-! ## Failures that end the script -/

variable {reports : Log.Event → Prop} {fails : ε → Prop} {s : Script ι φ ε α} {f : α → Script ι φ ε β}

/-- The script makes no more calls: it reports and fails, as it may. -/
def Quits (reports : Log.Event → Prop) (fails : ε → Prop) : Script ι φ ε α → Prop
  | done _ => False
  | fail e => fails e
  | report event rest => reports event ∧ Quits reports fails rest
  | call .. => False

/-- The script quits as soon as a call fails: `reports` is what it may still report, `fails` how it may
fail. -/
def Stops (reports : Log.Event → Prop) (fails : ε → Prop) : Script ι φ ε α → Prop
  | done _ => True
  | fail _ => True
  | report _ rest => Stops reports fails rest
  | call _ rest => (∀ f, Quits reports fails (rest (.error f))) ∧ ∀ b, Stops reports fails (rest (.ok b))

theorem Quits.bind (h : Quits reports fails s) : Quits reports fails (s >>= f) := by
  show Quits reports fails (s.bind f)
  induction s with
  | done a => exact h.elim
  | fail e => exact h
  | report event rest ih => exact ⟨h.1, ih h.2⟩
  | call c rest => exact h.elim

theorem Quits.run (h : Quits reports fails s) (serve : Server ι φ σ) (st : σ) :
    (∃ e, (s.run serve st).answer = .error e ∧ fails e) ∧ ∀ event ∈ (s.run serve st).events, reports event := by
  induction s with
  | done a => exact h.elim
  | fail e => exact ⟨⟨e, rfl, h⟩, by simp [Script.run]⟩
  | report event rest ih =>
    obtain ⟨hanswer, hevents⟩ := ih h.2
    exact ⟨hanswer, List.forall_mem_cons.2 ⟨h.1, hevents⟩⟩
  | call c rest => exact h.elim

namespace Stops

theorem ask {wrap : φ → ε} (h : ∀ f, fails (wrap f)) (c : ι α) : Stops reports fails (Script.ask wrap c) :=
  ⟨h, fun _ => trivial⟩

theorem bind (h : Stops reports fails s) (h' : ∀ a, Stops reports fails (f a)) : Stops reports fails (s >>= f) := by
  show Stops reports fails (s.bind f)
  induction s with
  | done a => exact h' a
  | fail e => trivial
  | report event rest ih => exact ih h
  | call c rest ih => exact ⟨fun fault => (h.1 fault).bind, fun b => ih (.ok b) (h.2 b)⟩

/-- A script that stops at failures ends as if the plan had none, or fails as it may. Until then it
reports nothing else than without the plan. -/
theorem run_faulty (h : Stops reports fails s) (serve : Server ι φ (ς × π))
    (plan : Nat → Option (φ × (π → π))) (n : Nat) (st : ς × π) :
    let o := s.run (faulty serve plan) (n, st)
    let spared := s.run serve st
    (o.answer = spared.answer ∧ o.state.2 = spared.state ∧ o.events = spared.events) ∨
      (∃ e, o.answer = .error e ∧ fails e) ∧ ∀ event ∈ o.events, event ∈ spared.events ∨ reports event := by
  induction s generalizing n st with
  | done a => exact .inl ⟨rfl, rfl, rfl⟩
  | fail e => exact .inl ⟨rfl, rfl, rfl⟩
  | report event rest ih =>
    rcases ih h n st with ⟨hanswer, hstate, hevents⟩ | ⟨hanswer, hevents⟩
    · exact .inl ⟨hanswer, hstate, congrArg (event :: ·) hevents⟩
    · refine .inr ⟨hanswer, List.forall_mem_cons.2 ⟨.inl List.mem_cons_self, fun event' he => ?_⟩⟩
      exact (hevents event' he).imp_left (List.mem_cons_of_mem _)
  | call c rest ih =>
    simp only [Script.run, faulty]
    cases plan n with
    | none =>
      cases hr : (serve c st).1 with
      | ok b => exact ih (.ok b) (h.2 b) (n + 1) _
      | error f =>
        -- here the engine fails of itself, and the script quits
        obtain ⟨hanswer, hevents⟩ := (h.1 f).run (faulty serve plan) (n + 1, (serve c st).2)
        exact .inr ⟨hanswer, fun event he => .inr (hevents event he)⟩
    | some fault =>
      obtain ⟨hanswer, hevents⟩ := (h.1 fault.1).run (faulty serve plan) (n + 1, st.1, fault.2 st.2)
      exact .inr ⟨hanswer, fun event he => .inr (hevents event he)⟩

end Stops

end Faulty

end Roster.Script
