import Mathlib.Data.List.Forall2
import Mathlib.Order.WellFounded
import Roster.Script

/-!
# Scripts in steps

A script that is put together from parts is played part by part: `run_bind` says so, and the other
lemmas here say what the single parts do. Whatever it is told, a script comes to its end:
`eventually_still`.
-/

namespace Roster.Script

variable {ι : Type → Type} {φ ε α β γ σ : Type}

/-! ## The laws of composition -/

theorem bind_done (s : Script ι φ ε α) : s.bind done = s := by
  induction s with
  | done a => rfl
  | fail e => rfl
  | report event rest ih => exact congrArg _ ih
  | call c rest ih => exact congrArg _ (funext ih)

theorem bind_assoc (s : Script ι φ ε α) (f : α → Script ι φ ε β) (g : β → Script ι φ ε γ) :
    (s.bind f).bind g = s.bind fun a => (f a).bind g := by
  induction s with
  | done a => rfl
  | fail e => rfl
  | report event rest ih => exact congrArg _ ih
  | call c rest ih => exact congrArg _ (funext ih)

instance : LawfulMonad (Script ι φ ε) :=
  LawfulMonad.mk' _ (fun s => bind_done s) (fun _ _ => rfl) (fun s f g => bind_assoc s f g)

/-! ## Playing -/

/-- What is left when another script follows in the same state; an error leaves nothing to follow. -/
def Outcome.andThen (o : Outcome σ ε α) (next : α → σ → Outcome σ ε β) : Outcome σ ε β :=
  match o.answer with
  | .ok a => { next a o.state with events := o.events ++ (next a o.state).events }
  | .error e => ⟨.error e, o.state, o.events⟩

@[simp] theorem andThen_ok (a : α) (st : σ) (events : List Log.Event) (next : α → σ → Outcome σ ε β) :
    Outcome.andThen ⟨.ok a, st, events⟩ next =
      { next a st with events := events ++ (next a st).events } := rfl

@[simp] theorem andThen_ok_nil (a : α) (st : σ) (next : α → σ → Outcome σ ε β) :
    Outcome.andThen ⟨.ok a, st, []⟩ next = next a st := rfl

@[simp] theorem andThen_error (e : ε) (st : σ) (events : List Log.Event)
    (next : α → σ → Outcome σ ε β) :
    Outcome.andThen ⟨.error e, st, events⟩ next = ⟨.error e, st, events⟩ := rfl

variable (serve : Server ι φ σ) (st : σ)

theorem run_bind (s : Script ι φ ε α) (f : α → Script ι φ ε β) :
    (s >>= f).run serve st = (s.run serve st).andThen fun a st => (f a).run serve st := by
  show (s.bind f).run serve st = _
  induction s generalizing st with
  | done a => simp [bind, run]
  | fail e => simp [bind, run]
  | report event rest ih =>
    simp only [bind, run, ih]
    unfold Outcome.andThen
    cases (rest.run serve st).answer <;> rfl
  | call c rest ih => simp only [bind, run, ih]

@[simp] theorem run_pure (a : α) :
    (pure a : Script ι φ ε α).run serve st = ⟨.ok a, st, []⟩ := rfl

@[simp] theorem run_fail (e : ε) : (fail e : Script ι φ ε α).run serve st = ⟨.error e, st, []⟩ := rfl

@[simp] theorem run_reported (event : Log.Event) :
    (Log.Reports.report event : Script ι φ ε Unit).run serve st = ⟨.ok (), st, [event]⟩ := rfl

theorem run_forM_cons (f : α → Script ι φ ε Unit) (a : α) (l : List α) :
    ((a :: l).forM f).run serve st = ((f a).run serve st).andThen fun _ st => (l.forM f).run serve st :=
  run_bind serve st (f a) fun _ => l.forM f

/-- Items are worked off in turn when working one off answers and leaves the state alone. -/
theorem run_mapM {f : α → Script ι φ ε β} {l : List α} {answers : List β} (events : α → List Log.Event)
    (h : List.Forall₂ (fun a b => (f a).run serve st = ⟨.ok b, st, events a⟩) l answers) :
    (l.mapM f).run serve st = ⟨.ok answers, st, l.flatMap events⟩ := by
  induction h with
  | nil => rfl
  | cons ha _ ih =>
    rw [List.mapM_cons, run_bind, ha, andThen_ok, run_bind, ih]
    simp

/-! ## Playing, reports aside -/

/-- The script ends with this answer and in this state, whatever it reports. -/
def Leads (serve : Server ι φ σ) (s : Script ι φ ε α) (st : σ) (answer : Except ε α) (st' : σ) : Prop :=
  (s.run serve st).answer = answer ∧ (s.run serve st).state = st'

namespace Leads

variable {serve st} {s : Script ι φ ε α} {f : α → Script ι φ ε β} {a : α} {st' st'' : σ} {e : ε}
  {answer : Except ε β}

theorem pure (a : α) : Leads serve (pure a : Script ι φ ε α) st (.ok a) st := ⟨rfl, rfl⟩

theorem fail (e : ε) : Leads serve (fail e : Script ι φ ε α) st (.error e) st := ⟨rfl, rfl⟩

theorem report (event : Log.Event) :
    Leads serve (Log.Reports.report event : Script ι φ ε Unit) st (.ok ()) st := ⟨rfl, rfl⟩

theorem ask {wrap : φ → ε} {c : ι β} {b : β} (h : serve c st = (.ok b, st')) :
    Leads serve (Script.ask wrap c) st (.ok b) st' := by
  constructor <;> simp [Script.ask, run, h]

theorem ask_error {wrap : φ → ε} {c : ι β} {f : φ} (h : serve c st = (.error f, st')) :
    Leads serve (Script.ask wrap c) st (.error (wrap f)) st' := by
  constructor <;> simp [Script.ask, run, h]

theorem bind (h : Leads serve s st (.ok a) st') (h' : Leads serve (f a) st' answer st'') :
    Leads serve (s >>= f) st answer st'' := by
  unfold Leads at *
  rw [run_bind, Outcome.andThen, h.1, h.2]
  exact h'

theorem error (h : Leads serve s st (.error e) st') : Leads serve (s >>= f) st (.error e) st' := by
  unfold Leads at *
  rw [run_bind, Outcome.andThen, h.1, h.2]
  exact ⟨rfl, rfl⟩

/-- Items are worked off one after another, up to the first that cannot be. -/
theorem mapM_cons {f : α → Script ι φ ε β} {l : List α} {b : β} {answer : Except ε (List β)}
    (ha : Leads serve (f a) st (.ok b) st') (hl : Leads serve (l.mapM f) st' answer st'') :
    Leads serve ((a :: l).mapM f) st (answer.map (b :: ·)) st'' := by
  rw [List.mapM_cons]
  cases answer with
  | ok bs => exact ha.bind (hl.bind (.pure _))
  | error e => exact ha.bind hl.error

end Leads

/-! ## Coming to an end -/

/-- What is left of a script after one step. -/
inductive Next : Script ι φ ε α → Script ι φ ε α → Prop where
  | report (event : Log.Event) (rest : Script ι φ ε α) : Next rest (.report event rest)
  | call {β : Type} (c : ι β) (rest : Except φ β → Script ι φ ε α) (r : Except φ β) : Next (rest r) (.call c rest)

theorem next_wf : WellFounded (@Next ι φ ε α) := by
  refine ⟨fun s => ?_⟩
  induction s with
  | done a => exact ⟨_, nofun⟩
  | fail e => exact ⟨_, nofun⟩
  | report event rest ih => exact ⟨_, by rintro _ ⟨⟩; exact ih⟩
  | call c rest ih => exact ⟨_, by rintro _ ⟨⟩; exact ih _⟩

theorem Next.ne {s s' : Script ι φ ε α} (h : Next s s') : s ≠ s' := by
  rintro rfl
  exact next_wf.irrefl.irrefl _ h

/-- A script of which less and less is left is not run forever. -/
theorem eventually_still {rest : Nat → Script ι φ ε α}
    (h : ∀ n, rest (n + 1) = rest n ∨ Next (rest (n + 1)) (rest n)) : ∃ n, ∀ m, n ≤ m → rest m = rest n := by
  obtain ⟨_, ⟨n, rfl⟩, hmin⟩ := next_wf.has_min (Set.range rest) ⟨_, 0, rfl⟩
  refine ⟨n, fun m hm => ?_⟩
  induction m, hm using Nat.le_induction with
  | base => rfl
  | succ m _ ih =>
    rcases h m with hsame | hnext
    · rw [hsame, ih]
    · rw [ih] at hnext
      exact absurd hnext (hmin _ ⟨_, rfl⟩)

end Roster.Script
