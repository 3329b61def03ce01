import Roster.Log.Event

/-!
# Operations as scripts of engine calls

A store's operation is a script: it calls the engine below, looks at each reply, reports events,
and ends with an answer or an error. The script does not say how a call is served. A server with
a state of its own does, so that one script can be run to its end, run with a call that fails,
or interleaved with others call by call.

`Script.run` plays a script to its end, and `Script.begin` up to a call that takes time.
-/

namespace Roster

open Log

/-- A program of calls `ι`, each of which may be answered by a fault `φ`, that ends with a value
or with an error `ε`. -/
inductive Script (ι : Type → Type) (φ ε α : Type) : Type 1 where
  | done (a : α)
  | fail (e : ε)
  | report (event : Event) (rest : Script ι φ ε α)
  | call {β : Type} (c : ι β) (rest : Except φ β → Script ι φ ε α)

namespace Script

variable {ι : Type → Type} {φ ε α β : Type}

/-- One script after another; an error ends both. -/
def bind (s : Script ι φ ε α) (f : α → Script ι φ ε β) : Script ι φ ε β :=
  match s with
  | done a => f a
  | fail e => fail e
  | report event rest => report event (rest.bind f)
  | call c rest => call c fun r => (rest r).bind f

instance : Monad (Script ι φ ε) where
  pure := done
  bind := bind

instance : Reports (Script ι φ ε) where
  report event := report event (done ())

/-- A call whose fault becomes the error `wrap`. -/
def ask (wrap : φ → ε) (c : ι β) : Script ι φ ε β :=
  call c fun
    | .ok b => done b
    | .error f => fail (wrap f)

/-- How an engine with states `σ` serves calls. -/
abbrev Server (ι : Type → Type) (φ σ : Type) := {β : Type} → ι β → σ → Except φ β × σ

/-- What is left when a script has ended. -/
structure Outcome (σ ε α : Type) where
  answer : Except ε α
  state : σ
  /-- What was reported, in order. -/
  events : List Event

/-- Plays a script to its end. -/
def run {σ : Type} (serve : Server ι φ σ) (state : σ) : Script ι φ ε α → Outcome σ ε α
  | done a => ⟨.ok a, state, []⟩
  | fail e => ⟨.error e, state, []⟩
  | report event rest =>
    let o := run serve state rest
    { o with events := event :: o.events }
  | call c rest => run serve (serve c state).2 (rest (serve c state).1)

/-- Plays a script up to the first call that its caller has to wait for, and leaves it there; the answer is
none if there is such a call. -/
def begin {σ : Type} (serve : Server ι φ σ) (waits : {β : Type} → ι β → Bool) (state : σ) :
    Script ι φ ε α → Option (Except ε α) × σ × List Event
  | done a => (some (.ok a), state, [])
  | fail e => (some (.error e), state, [])
  | report event rest =>
    let (answer, state, events) := begin serve waits state rest
    (answer, state, event :: events)
  | call c rest =>
    if waits c then (none, state, []) else begin serve waits (serve c state).2 (rest (serve c state).1)

end Script

end Roster
