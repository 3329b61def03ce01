import Mathlib.Logic.Function.Basic
import Roster.Embedded.Store
import Roster.Proofs.Embedded.Composition

/-!
# Calls at the same time

Many callers use one embedded store at once. Each call goes on one engine call or report at a time,
in any order among the calls, and its caller may go away between any two steps. There is one write
transaction at a time: who asks for another one waits. A caller that goes away before its work was
handed to a worker takes the call with it; later on the worker finishes without it.
-/

namespace Roster.Embedded

/-- A call on its way. -/
structure Flight where
  caller : Caller
  /-- What is left of its operation. -/
  rest : Operation Answer

namespace Flight

/-- The answer, once there is one. -/
def answer? (f : Flight) : Option (Except StoreError Answer) :=
  match f.rest with
  | .done a => some (.ok a)
  | .fail e => some (.error e)
  | _ => none

/-- Somebody carries the call on. -/
def goesOn (f : Flight) : Bool := !f.caller.gone || f.caller.handedOver

/-- The call has the write transaction. One that has ended has given it up. -/
def writes (f : Flight) : Bool :=
  match f.caller.view, f.answer? with
  | .writing _, none => true
  | _, _ => false

theorem writes_iff {f : Flight} :
    f.writes = true ↔ (∃ t, f.caller.view = .writing t) ∧ f.answer? = none := by
  unfold writes
  split
  · rename_i t hv ha
    simp [hv, ha]
  · rename_i hno
    simp only [Bool.false_eq_true, false_iff]
    rintro ⟨⟨t, hv⟩, ha⟩
    exact hno t hv ha

/-- The call once its caller has gone away. -/
def left (f : Flight) : Flight := { f with caller := { f.caller with gone := true } }

@[simp] theorem left_writes (f : Flight) : f.left.writes = f.writes := rfl

end Flight

/-- The call begins a write transaction. -/
def Call.isBeginWrite {β : Type} : Call β → Bool
  | .beginWrite => true
  | _ => false

/-- Calls on one store, by their names. -/
structure System (ι : Type) where
  shared : Shared
  flights : ι → Flight
  /-- Which call has the write transaction. -/
  writer : Option ι
  /-- The calls that were committed, in order. -/
  commits : List ι

namespace System

variable {ι : Type} [DecidableEq ι]

/-- All calls are made and none has done anything yet. -/
def start (path : String) (shared : Shared) (q : ι → Request) : System ι where
  shared := shared
  flights i := ⟨.waiting, Operation.ofRequest path (q i)⟩
  writer := none
  commits := []

/-- What may happen next. -/
inductive Move (ι : Type) where
  /-- A call makes its next step. -/
  | advance (i : ι)
  /-- A caller goes away. -/
  | leave (i : ι)

/-- The system when a call has got that far. -/
def land (s : System ι) (i : ι) (shared : Shared) (f : Flight) (commits : List ι) : System ι where
  shared := shared
  flights := Function.update s.flights i f
  writer := if f.writes then some i else if s.writer = some i then none else s.writer
  commits := commits

/-- The system once a call of the engine was answered. -/
def served (s : System ι) (i : ι) {β : Type} (c : Call β) (rest : Except String β → Operation Answer) : System ι :=
  let (reply, shared, caller) := serve c (s.shared, (s.flights i).caller)
  s.land i shared ⟨caller, rest reply⟩ (if c.isCommit then s.commits ++ [i] else s.commits)

/-- The system after the next step of a call; the same if that call has ended, waits for the write
transaction, or was given up. -/
def advance (s : System ι) (i : ι) : System ι :=
  let f := s.flights i
  if f.goesOn then
    match f.rest with
    | .done _ | .fail _ => s
    | .report _ rest => s.land i s.shared { f with rest := rest } s.commits
    | .call c rest => if c.isBeginWrite && s.writer.isSome then s else s.served i c rest
  else s

/-- The system after a move. -/
def move (s : System ι) : Move ι → System ι
  | .advance i => s.advance i
  | .leave i => { s with flights := Function.update s.flights i (s.flights i).left }

/-- What a move makes of a call. -/
inductive Moved (s : System ι) (m : Move ι) (i : ι) : Flight → Prop where
  | same : Moved s m i (s.flights i)
  | left (hm : m = .leave i) : Moved s m i (s.flights i).left
  | reported (hm : m = .advance i) {event : Log.Event} {rest : Operation Answer}
      (hrest : (s.flights i).rest = .report event rest) : Moved s m i { s.flights i with rest := rest }
  | served (hm : m = .advance i) {β : Type} {c : Call β} {rest : Except String β → Operation Answer}
      (hrest : (s.flights i).rest = .call c rest) :
      Moved s m i ⟨(serve c (s.shared, (s.flights i).caller)).2.2, rest (serve c (s.shared, (s.flights i).caller)).1⟩

theorem flights_served {s : System ι} {i j : ι} {β : Type} {c : Call β} {rest : Except String β → Operation Answer} :
    (s.served i c rest).flights j =
      if j = i then ⟨(serve c (s.shared, (s.flights i).caller)).2.2, rest (serve c (s.shared, (s.flights i).caller)).1⟩
      else s.flights j := by
  simp [served, land, Function.update_apply]

theorem moved (s : System ι) (m : Move ι) (j : ι) : Moved s m j ((s.move m).flights j) := by
  cases m with
  | leave i =>
    by_cases hj : j = i
    · subst hj
      simpa [move] using Moved.left rfl
    · simpa [move, hj] using Moved.same
  | advance i =>
    simp only [move, advance]
    split
    · split
      · exact .same
      · exact .same
      · rename_i event rest hrest
        by_cases hj : j = i
        · subst hj
          simpa [land] using Moved.reported rfl hrest
        · simpa [land, hj] using Moved.same
      · rename_i β c rest hrest
        split
        · exact .same
        · rw [flights_served]
          split
          · rename_i hj
            subst hj
            exact .served rfl hrest
          · exact .same
    · exact .same

/-- The system after moves in turn. -/
def run (s : System ι) (moves : List (Move ι)) : System ι := moves.foldl move s

/-- The system after the first `n` of moves without an end. -/
def upTo (s : System ι) (next : Nat → Move ι) (n : Nat) : System ι := s.run ((List.range n).map next)

theorem upTo_succ (s : System ι) (next : Nat → Move ι) (n : Nat) :
    s.upTo next (n + 1) = (s.upTo next n).move (next n) := by
  simp [upTo, run, List.range_succ]

/-- The store once some of the requests were served one after another. -/
def inTurn (path : String) (shared : Shared) (q : ι → Request) (order : List ι) : Store :=
  order.foldl (fun s i => (s.perform (q i)).state) ⟨path, shared⟩

end System

end Roster.Embedded
