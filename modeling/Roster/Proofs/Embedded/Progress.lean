import Mathlib.Data.Fintype.Order
import Roster.Proofs.Embedded.Concurrency

/-!
# Calls come to their end

A call may wait for the write transaction, but who has it goes on without waiting and gives it up in
the end, whether its caller stays or not. So of finitely many calls that all get their turn again and
again, every one whose caller stays is answered.
-/

namespace Roster

namespace Embedded

/-- The next step of the call is to begin a write transaction. -/
def Flight.asksToWrite (f : Flight) : Bool :=
  match f.rest with
  | .call c _ => c.isBeginWrite
  | _ => false

namespace System

open Script

variable {ι : Type} {s : System ι} {i j : ι}

/-! ## Who has the write transaction -/

theorem not_asksToWrite {post : Answer → Phase → Prop} {f : Flight} {p : Phase}
    (hp : p = .writing ∨ p = .committing ∨ p = .aborting) (h : Follows post f.rest p) : f.asksToWrite = false := by
  unfold Flight.asksToWrite
  cases hrest : f.rest with
  | done a => rfl
  | fail e => rfl
  | report event rest => rfl
  | call c rest =>
    rw [hrest] at h
    cases c with
    | beginWrite =>
      obtain ⟨p', hnext, -⟩ := h ()
      rcases hp with rfl | rfl | rfl <;> cases hnext
    | _ => rfl

variable {path : String} {shared : Shared} {q : ι → Request}

/-- Who has the write transaction goes on without waiting. -/
theorem Inv.writer_goes (h : Inv path shared q s) (hj : s.writer = some j) :
    (s.flights j).goesOn = true ∧ (s.flights j).answer? = none ∧ (s.flights j).asksToWrite = false := by
  obtain ⟨⟨t, hview⟩, ha⟩ := Flight.writes_iff.1 ((h.lock j).1 hj)
  have hgoes (hhanded : (s.flights j).caller.handedOver = true) : (s.flights j).goesOn = true := by
    simp [Flight.goesOn, hhanded]
  cases h.status j with
  | entering _ hnone => rw [hview] at hnone; cases hnone
  | reading _ _ _ _ hreading => rw [hview] at hreading; cases hreading
  | working _ p hp phase _ _ handed =>
    exact ⟨hgoes handed, ha, not_asksToWrite (hp.imp_right .inl) phase⟩
  | aborting _ phase _ _ handed =>
    exact ⟨hgoes handed, ha, not_asksToWrite (.inr (.inr rfl)) phase⟩
  | committed _ _ _ _ hnone => rw [hview] at hnone; cases hnone
  | aborted _ _ hnone => rw [hview] at hnone; cases hnone
  | refused e _ _ _ ended => simp [Flight.answer?, ended] at ha

/-! ## Steps of a call -/

variable [DecidableEq ι]

/-- A step leaves less of the call to do. -/
theorem next_move (s : System ι) (m : Move ι) (j : ι) :
    ((s.move m).flights j).rest = (s.flights j).rest ∨ Next ((s.move m).flights j).rest (s.flights j).rest := by
  have hm := s.moved m j
  generalize (s.move m).flights j = f at hm ⊢
  cases hm with
  | same => exact .inl rfl
  | left => exact .inl rfl
  | reported hm hrest => exact .inr (hrest ▸ .report _ _)
  | served hm hrest => exact .inr (hrest ▸ .call _ _ _)

theorem serve_gone {β : Type} (c : Call β) (st : Shared × Caller) : (serve c st).2.2.gone = st.2.gone := by
  obtain ⟨shared, view, gone, handed⟩ := st
  cases c with
  | commit => cases view <;> rfl
  | _ => rfl

theorem move_gone {m : Move ι} (h : m ≠ .leave i) :
    ((s.move m).flights i).caller.gone = (s.flights i).caller.gone := by
  have hm := s.moved m i
  generalize (s.move m).flights i = f at hm ⊢
  cases hm with
  | same => rfl
  | left hm => exact absurd hm h
  | reported => rfl
  | served => exact serve_gone _ _

/-- A call that goes on makes a step, unless it waits for the write transaction. -/
theorem next_advance (hgo : (s.flights i).goesOn = true) (ha : (s.flights i).answer? = none)
    (hfree : (s.flights i).asksToWrite = true → s.writer = none) :
    Next ((s.move (.advance i)).flights i).rest (s.flights i).rest := by
  simp only [move, advance, hgo, if_true]
  unfold Flight.answer? at ha
  unfold Flight.asksToWrite at hfree
  cases hrest : (s.flights i).rest with
  | done a => simp [hrest] at ha
  | fail e => simp [hrest] at ha
  | report event rest =>
    simp only [land, Function.update_self]
    exact .report event rest
  | call c rest =>
    rw [hrest] at hfree
    have : (c.isBeginWrite && s.writer.isSome) = false := by
      cases hc : c.isBeginWrite with
      | true => simp [hfree hc]
      | false => rfl
    simp only [this, Bool.false_eq_true, if_false, served, land, Function.update_self]
    exact .call c rest _

/-! ## Moves without an end -/

variable {next : Nat → Move ι}

theorem Inv.upTo (h : Inv path shared q s) (hq : ∀ i, q i ≠ .close) (n : Nat) :
    Inv path shared q (s.upTo next n) := h.run hq _

/-- The caller is there as long as it does not go away. -/
theorem upTo_gone (hstay : ∀ n, next n ≠ .leave i) (n : Nat) :
    ((s.upTo next n).flights i).caller.gone = (s.flights i).caller.gone := by
  induction n with
  | zero => rfl
  | succ n ih => rw [upTo_succ, move_gone (hstay n), ih]

/-- A call of which nothing more is done keeps its transaction. -/
theorem upTo_writes {n : Nat} (hstill : ∀ m, n ≤ m → ((s.upTo next m).flights j).rest = ((s.upTo next n).flights j).rest)
    {m m' : Nat} (hm : n ≤ m) (hm' : m ≤ m') :
    ((s.upTo next m').flights j).writes = ((s.upTo next m).flights j).writes := by
  induction m', hm' using Nat.le_induction with
  | base => rfl
  | succ m' hle ih =>
    have hrest := (hstill (m' + 1) (by omega)).trans (hstill m' (by omega)).symm
    rw [upTo_succ] at hrest ⊢
    have hmoved := (s.upTo next m').moved (next m') j
    generalize ((s.upTo next m').move (next m')).flights j = f at hmoved hrest ⊢
    cases hmoved with
    | same => exact ih
    | left => exact ih
    | reported _ hreport => exact absurd (hrest.trans hreport) (Next.report _ _).ne
    | served _ hcall => exact absurd (hrest.trans hcall) (Next.call _ _ _).ne

/-- When every call gets its turn again and again, each one whose caller stays is answered. -/
theorem exists_answer [Finite ι] (h : Inv path shared q s) (hq : ∀ i, q i ≠ .close)
    (hfair : ∀ i n, ∃ m, n ≤ m ∧ next m = .advance i) (hstay : ∀ n, next n ≠ .leave i)
    (hgone : (s.flights i).caller.gone = false) : ∃ n, ((s.upTo next n).flights i).answer?.isSome = true := by
  by_contra hno
  have hnone (n : Nat) : ((s.upTo next n).flights i).answer? = none := by
    simpa using fun hs => hno ⟨n, hs⟩
  -- from some moment on no call does anything more
  have hstill (j : ι) : ∃ n, ∀ m, n ≤ m → ((s.upTo next m).flights j).rest = ((s.upTo next n).flights j).rest := by
    refine eventually_still fun n => ?_
    rw [upTo_succ]
    exact next_move ..
  choose start hstart using hstill
  obtain ⟨n, hn⟩ := Finite.exists_le start
  have hquiet {j : ι} {m : Nat} (hm : n ≤ m) (hturn : next m = .advance j) :
      ¬ Next ((s.upTo next m).move (.advance j) |>.flights j).rest ((s.upTo next m).flights j).rest := by
    have hj := hn j
    rw [← hturn, ← upTo_succ, hstart j (m + 1) (by omega), hstart j m (by omega)]
    exact fun hnext => hnext.ne rfl
  obtain ⟨m, hm, hturn⟩ := hfair i n
  have hgo : ((s.upTo next m).flights i).goesOn = true := by
    simp [Flight.goesOn, upTo_gone hstay, hgone]
  refine hquiet hm hturn (next_advance hgo (hnone m) fun _ => ?_)
  -- who has the write transaction would do something when its turn comes
  by_contra hwriter
  obtain ⟨j, hj⟩ := Option.ne_none_iff_exists'.1 hwriter
  obtain ⟨m', hm', hturn'⟩ := hfair j m
  have hj' : (s.upTo next m').writer = some j := by
    have hnj := hn j
    rw [(h.upTo hq m').lock j, upTo_writes (hstart j) (m := m) (by omega) hm', ← (h.upTo hq m).lock j, hj]
  obtain ⟨hgo', hnone', hfree'⟩ := (h.upTo hq m').writer_goes hj'
  refine hquiet (hm.trans hm') hturn' (next_advance hgo' hnone' fun hasks => ?_)
  rw [hfree'] at hasks
  cases hasks

end System

end Embedded

end Roster
