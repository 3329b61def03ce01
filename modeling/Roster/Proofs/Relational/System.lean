import Mathlib.Logic.Function.Basic
import Roster.Proofs.Relational.Phases

/-!
# Calls at the same time on one database

Many callers use one relational store at once. Each call goes on one statement or report at a time, in
any order among the calls. A statement needs one of the connections of the pool, and a call that finds
none free waits. A transaction keeps its connection until it ends. A caller may drop its call between
any two steps, and any statement may fail: either way the transaction is rolled back and the connection
is free again.
-/

namespace Roster.Relational

/-- The call is a statement, for which a connection is needed. -/
def Call.needsConnection {β : Type} : Call β → Bool
  | .takeConnection | .dropConnection | .closePool => false
  | _ => true

/-- With this reply the call has changed the rows for all others to see: it has committed a transaction,
or was a deletion outside of one that deleted somebody. -/
def Call.takesEffect {β : Type} : Call β → Draft → Except DbFault β → Bool
  | .commit, some _, .ok () => true
  | .deleteUser _, none, .ok n => n != 0
  | _, _, _ => false

/-- A call on its way. -/
structure Flight where
  /-- The draft of its transaction, if it is in one. -/
  draft : Draft
  /-- What is left of its operation. -/
  rest : Operation Answer
  /-- The caller has dropped the call. -/
  gone : Bool
  /-- One of its statements has failed for a reason that does not lie with the rows. -/
  struck : Bool

namespace Flight

/-- The answer, once there is one. -/
def answer? (f : Flight) : Option (Except StoreError Answer) :=
  match f.rest with
  | .done a => some (.ok a)
  | .fail e => some (.error e)
  | _ => none

/-- The call goes no further: it was answered, or its caller has dropped it. -/
def isOver (f : Flight) : Bool := f.gone || f.answer?.isSome

/-- A call that has ended leaves no transaction open. -/
def settled (f : Flight) : Flight := if f.answer?.isSome then { f with draft := none } else f

@[simp] theorem rest_settled (f : Flight) : f.settled.rest = f.rest := by
  unfold settled
  split <;> rfl

@[simp] theorem gone_settled (f : Flight) : f.settled.gone = f.gone := by
  unfold settled
  split <;> rfl

@[simp] theorem struck_settled (f : Flight) : f.settled.struck = f.struck := by
  unfold settled
  split <;> rfl

@[simp] theorem isOver_settled (f : Flight) : f.settled.isOver = f.isOver := by
  simp only [isOver, answer?, rest_settled, gone_settled]

/-- A call that keeps its transaction has not ended. -/
theorem goes_of_settled {f : Flight} (h : f.settled.draft.isSome = true) :
    f.draft.isSome = true ∧ f.answer? = none := by
  unfold settled at h
  split at h
  · cases h
  · rename_i ha
    exact ⟨h, by simpa using ha⟩

/-- The call once its caller has dropped it. -/
def left (f : Flight) : Flight := { f with draft := none, gone := true }

end Flight

/-- Calls on one store, by their names. -/
structure System (ι : Type) where
  /-- How many connections the pool has. -/
  limit : Nat
  shared : Shared
  flights : ι → Flight
  /-- Which calls have a connection. -/
  holders : List ι
  /-- The calls whose effect is there, in the order in which it came about. -/
  commits : List ι

namespace System

variable {ι : Type} [DecidableEq ι]

/-- All calls are made and none has done anything yet. -/
def start (limit : Nat) (shared : Shared) (q : ι → Request) : System ι where
  limit := limit
  shared := shared
  flights i := ⟨none, Operation.ofRequest (q i), false, false⟩
  holders := []
  commits := []

/-- What may happen next. -/
inductive Move (ι : Type) where
  /-- A call makes its next step. -/
  | advance (i : ι)
  /-- A caller drops its call. -/
  | leave (i : ι)
  /-- The next statement of a call fails. -/
  | stumble (i : ι) (fault : DbFault)

/-- Whose call it is. -/
def Move.caller : Move ι → ι
  | .advance i | .leave i | .stumble i _ => i

/-- The system when a call has got that far. A connection is kept for a transaction only. -/
def land (s : System ι) (i : ι) (shared : Shared) (f : Flight) (commits : List ι) : System ι where
  limit := s.limit
  shared := shared
  flights := Function.update s.flights i f.settled
  holders := if f.settled.draft.isSome then s.holders else s.holders.filter (· ≠ i)
  commits := commits

theorem land_flights (s : System ι) (i j : ι) (shared : Shared) (f : Flight) (commits : List ι) :
    (s.land i shared f commits).flights j = if j = i then f.settled else s.flights j :=
  Function.update_apply ..

theorem mem_holders_of_land {s : System ι} {i j : ι} {shared : Shared} {f : Flight} {commits : List ι}
    (h : j ∈ (s.land i shared f commits).holders) : j ∈ s.holders := by
  unfold land at h
  dsimp only at h
  split at h
  · exact h
  · exact List.mem_of_mem_filter h

/-- The others keep their connections. -/
theorem mem_holders_land {s : System ι} {i j : ι} (h : j ∈ s.holders) (hj : j ≠ i) (shared : Shared) (f : Flight)
    (commits : List ι) : j ∈ (s.land i shared f commits).holders := by
  unfold land
  dsimp only
  split
  · exact h
  · simp [h, hj]

/-- The system once a call of the engine was answered. -/
def served (s : System ι) (i : ι) {β : Type} (c : Call β) (rest : Except DbFault β → Operation Answer) : System ι :=
  let f := s.flights i
  let (reply, shared, draft) := serve c (s.shared, f.draft)
  s.land i shared { f with draft := draft, rest := rest reply }
    (if c.takesEffect f.draft reply then s.commits ++ [i] else s.commits)

/-- The system after the next step of a call, which may be to get a connection; the same if the call has
ended, was dropped, or finds no connection. -/
def advance (s : System ι) (i : ι) : System ι :=
  let f := s.flights i
  if f.gone then s
  else
    match f.rest with
    | .done _ | .fail _ => s
    | .report _ rest => s.land i s.shared { f with rest := rest } s.commits
    | .call c rest =>
      if c.needsConnection && !s.holders.contains i then
        if s.holders.length < s.limit then { s with holders := i :: s.holders } else s
      else s.served i c rest

/-- The system after the next step of a call has failed, if it is a statement. -/
def stumble (s : System ι) (i : ι) (fault : DbFault) : System ι :=
  let f := s.flights i
  if f.gone then s
  else
    match f.rest with
    | .call c rest =>
      if c.needsConnection then s.land i s.shared { f with rest := rest (.error fault), struck := true } s.commits
      else s
    | _ => s

/-- The system after a move. -/
def move (s : System ι) : Move ι → System ι
  | .advance i => s.advance i
  | .leave i => s.land i s.shared (s.flights i).left s.commits
  | .stumble i fault => s.stumble i fault

/-- The system after moves in turn. -/
def run (s : System ι) (moves : List (Move ι)) : System ι := moves.foldl move s

theorem run_append (s : System ι) (moves moves' : List (Move ι)) : s.run (moves ++ moves') = (s.run moves).run moves' :=
  List.foldl_append

/-- The system after the first `n` of moves without an end. -/
def upTo (s : System ι) (next : Nat → Move ι) (n : Nat) : System ι := s.run ((List.range n).map next)

theorem upTo_succ (s : System ι) (next : Nat → Move ι) (n : Nat) :
    s.upTo next (n + 1) = (s.upTo next n).move (next n) := by
  simp [upTo, run, List.range_succ]

/-- What a move makes of the system. -/
inductive Moved (s : System ι) (m : Move ι) : System ι → Prop where
  | same : Moved s m s
  | left (i : ι) (hm : m = .leave i) : Moved s m (s.land i s.shared (s.flights i).left s.commits)
  | connected (i : ι) (hm : m = .advance i) (goes : (s.flights i).isOver = false) (room : s.holders.length < s.limit) :
      Moved s m { s with holders := i :: s.holders }
  | reported (i : ι) (hm : m = .advance i) (here : (s.flights i).gone = false) {event : Log.Event}
      {rest : Operation Answer} (hrest : (s.flights i).rest = .report event rest) :
      Moved s m (s.land i s.shared { s.flights i with rest := rest } s.commits)
  | served (i : ι) (hm : m = .advance i) (here : (s.flights i).gone = false) {β : Type} {c : Call β}
      {rest : Except DbFault β → Operation Answer} (hrest : (s.flights i).rest = .call c rest)
      (connected : c.needsConnection = true → i ∈ s.holders) : Moved s m (s.served i c rest)
  | struck (i : ι) (fault : DbFault) (hm : m = .stumble i fault) (here : (s.flights i).gone = false) {β : Type}
      {c : Call β} {rest : Except DbFault β → Operation Answer} (hrest : (s.flights i).rest = .call c rest) :
      Moved s m (s.land i s.shared { s.flights i with rest := rest (.error fault), struck := true } s.commits)

theorem moved (s : System ι) (m : Move ι) : Moved s m (s.move m) := by
  cases m with
  | leave i => exact .left i rfl
  | advance i =>
    simp only [move, advance]
    split
    · exact .same
    rename_i hgone
    have here : (s.flights i).gone = false := by simpa using hgone
    split
    · exact .same
    · exact .same
    · rename_i hrest
      exact .reported i rfl here hrest
    · rename_i hrest
      split
      · split
        · rename_i room
          exact .connected i rfl (by simp [Flight.isOver, Flight.answer?, here, hrest]) room
        · exact .same
      · rename_i hno
        exact .served i rfl here hrest fun hneeds => by simpa [hneeds] using hno
  | stumble i fault =>
    simp only [move, stumble]
    split
    · exact .same
    rename_i hgone
    have here : (s.flights i).gone = false := by simpa using hgone
    split
    · rename_i hrest
      split
      · exact .struck i fault rfl here hrest
      · exact .same
    · exact .same

theorem mem_commits_served (s : System ι) {i j : ι} (hj : j ≠ i) {β : Type} (c : Call β)
    (rest : Except DbFault β → Operation Answer) : j ∈ (s.served i c rest).commits ↔ j ∈ s.commits := by
  unfold served land
  dsimp only
  split
  · simp [hj]
  · exact Iff.rfl

/-- A move leaves the calls of all others as they are. -/
theorem move_other (s : System ι) {m : Move ι} {i : ι} (hi : i ≠ m.caller) :
    (s.move m).flights i = s.flights i ∧ (i ∈ (s.move m).commits ↔ i ∈ s.commits) := by
  have hm := s.moved m
  generalize s.move m = s' at hm ⊢
  cases hm with
  | same | connected => exact ⟨rfl, Iff.rfl⟩
  | left j hm | reported j hm | struck j _ hm =>
    subst hm
    exact ⟨(s.land_flights ..).trans (if_neg hi), Iff.rfl⟩
  | served j hm =>
    subst hm
    exact ⟨(s.land_flights ..).trans (if_neg hi), s.mem_commits_served hi _ _⟩

theorem run_other (s : System ι) {moves : List (Move ι)} {i : ι} (hi : ∀ m ∈ moves, i ≠ m.caller) :
    (s.run moves).flights i = s.flights i ∧ (i ∈ (s.run moves).commits ↔ i ∈ s.commits) := by
  induction moves generalizing s with
  | nil => exact ⟨rfl, Iff.rfl⟩
  | cons m moves ih =>
    obtain ⟨hm, hmoves⟩ := List.forall_mem_cons.1 hi
    obtain ⟨hflight, hcommits⟩ := s.move_other hm
    obtain ⟨hflights, hcommitted⟩ := ih (s.move m) hmoves
    exact ⟨hflights.trans hflight, hcommitted.trans hcommits⟩

/-- The store once some of the requests were served one after another. -/
def inTurn (shared : Shared) (q : ι → Request) (order : List ι) : Store :=
  order.foldl (fun s i => (s.perform (q i)).state) ⟨shared⟩

end System

end Roster.Relational
