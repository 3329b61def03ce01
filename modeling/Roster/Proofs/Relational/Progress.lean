import Mathlib.Data.Fintype.Order
import Roster.Proofs.Relational.System

/-!
# Calls on a pool come to their end

A call may wait for a connection, but who has one goes on without waiting, and gives it back when its
transaction ends or its caller drops it. So of finitely many calls that all get their turn again and again,
every one whose caller stays is answered, however few connections there are.
-/

namespace Roster.Relational.System

open Script

variable {ι : Type} [DecidableEq ι] {s : System ι} {m : Move ι} {i j : ι}

/-! ## Steps of a call -/

/-- A step leaves less of the call to do. -/
theorem next_move (s : System ι) (m : Move ι) (j : ι) :
    ((s.move m).flights j).rest = (s.flights j).rest ∨ Next ((s.move m).flights j).rest (s.flights j).rest := by
  have hm := s.moved m
  generalize s.move m = s' at hm ⊢
  have hland {i : ι} {shared : Shared} {f : Flight} {commits : List ι}
      (h : f.rest = (s.flights i).rest ∨ Next f.rest (s.flights i).rest) :
      ((s.land i shared f commits).flights j).rest = (s.flights j).rest ∨
        Next ((s.land i shared f commits).flights j).rest (s.flights j).rest := by
    rw [land_flights]
    split
    · rename_i hj
      rwa [Flight.rest_settled, hj]
    · exact .inl rfl
  cases hm with
  | same | connected => exact .inl rfl
  | left i => exact hland (.inl rfl)
  | reported i _ _ hrest => exact hland (.inr (hrest ▸ .report _ _))
  | served i _ _ hrest => exact hland (.inr (hrest ▸ .call _ _ _))
  | struck i _ _ _ hrest => exact hland (.inr (hrest ▸ .call _ _ _))

/-- Only its caller drops a call. -/
theorem move_gone (hm : m ≠ .leave j) : ((s.move m).flights j).gone = (s.flights j).gone := by
  have hmoved := s.moved m
  generalize s.move m = s' at hmoved ⊢
  have hland {i : ι} {shared : Shared} {f : Flight} {commits : List ι} (h : j = i → f.gone = (s.flights i).gone) :
      ((s.land i shared f commits).flights j).gone = (s.flights j).gone := by
    rw [land_flights]
    split
    · rename_i hj
      rw [Flight.gone_settled, h hj, hj]
    · rfl
  cases hmoved with
  | same | connected => rfl
  | left i hleave =>
    refine hland fun hj => ?_
    subst hj
    exact absurd hleave hm
  | reported | served | struck => exact hland fun _ => rfl

theorem gone_of_gone (h : (s.flights j).gone = true) : ((s.move m).flights j).gone = true := by
  by_cases hm : m = .leave j
  · rw [hm, move, land_flights, if_pos rfl, Flight.gone_settled]
    rfl
  · rwa [move_gone hm]

/-! ## Who has a connection -/

/-- Who has a connection still has something to do with it. -/
def Busy (s : System ι) : Prop := ∀ i ∈ s.holders, (s.flights i).isOver = false

theorem Busy.land (h : Busy s) {shared : Shared} {f : Flight} {commits : List ι}
    (hf : f.draft.isSome = true → f.gone = false) : Busy (s.land i shared f commits) := by
  intro j hj
  rw [land_flights]
  split
  · rename_i hji
    subst hji
    -- the connection was kept, for a transaction that goes on
    have hkept : f.settled.draft.isSome = true := by
      by_contra hnone
      simp [System.land, hnone] at hj
    obtain ⟨hdraft, hgoes⟩ := Flight.goes_of_settled hkept
    rw [Flight.isOver_settled]
    simp [Flight.isOver, hf hdraft, hgoes]
  · exact h j (mem_holders_of_land hj)

theorem Busy.move (h : Busy s) (m : Move ι) : Busy (s.move m) := by
  have hm := s.moved m
  generalize s.move m = s' at hm ⊢
  cases hm with
  | same => exact h
  | connected i _ hgoes =>
    intro j hj
    rcases List.mem_cons.1 hj with rfl | hj
    · exact hgoes
    · exact h j hj
  | left i => exact h.land (by simp [Flight.left])
  | reported i _ here => exact h.land fun _ => here
  | served i _ here => exact h.land fun _ => here
  | struck i _ _ here => exact h.land fun _ => here

theorem move_limit (s : System ι) (m : Move ι) : (s.move m).limit = s.limit := by
  have hm := s.moved m
  generalize s.move m = s' at hm ⊢
  cases hm <;> rfl

/-- A call of which nothing is done keeps its connection. -/
theorem mem_holders_move (h : Busy s) (hj : j ∈ s.holders)
    (hrest : ((s.move m).flights j).rest = (s.flights j).rest)
    (hgone : ((s.move m).flights j).gone = (s.flights j).gone) : j ∈ (s.move m).holders := by
  have hover := h j hj
  have hm := s.moved m
  generalize s.move m = s' at hm hrest hgone ⊢
  have hland {i : ι} {shared : Shared} {f : Flight} {commits : List ι}
      (hrest : ((s.land i shared f commits).flights j).rest = (s.flights j).rest)
      (hnext : Next f.rest (s.flights i).rest) : j ∈ (s.land i shared f commits).holders := by
    refine mem_holders_land hj ?_ ..
    rintro rfl
    rw [land_flights, if_pos rfl, Flight.rest_settled] at hrest
    exact hnext.ne hrest
  cases hm with
  | same => exact hj
  | connected i => exact List.mem_cons_of_mem i hj
  | left i =>
    refine mem_holders_land hj ?_ ..
    rintro rfl
    rw [land_flights, if_pos rfl, Flight.gone_settled] at hgone
    simp [Flight.isOver, ← hgone, Flight.left] at hover
  | reported i _ _ hreport => exact hland hrest (hreport ▸ .report _ _)
  | served i _ _ hcall => exact hland hrest (hcall ▸ .call _ _ _)
  | struck i _ _ _ hcall => exact hland hrest (hcall ▸ .call _ _ _)

/-- A call that is not over makes a step when its turn comes, unless it has to get a connection first; it
gets one if there is one. -/
theorem next_advance (h : (s.flights i).isOver = false) :
    Next ((s.move (.advance i)).flights i).rest (s.flights i).rest ∨
      i ∉ s.holders ∧ (s.holders.length < s.limit → i ∈ (s.move (.advance i)).holders) := by
  obtain ⟨hgone, ha⟩ : (s.flights i).gone = false ∧ (s.flights i).answer? = none := by
    simpa [Flight.isOver] using h
  simp only [System.move, advance, hgone, Bool.false_eq_true, if_false]
  unfold Flight.answer? at ha
  cases hrest : (s.flights i).rest with
  | done a => simp [hrest] at ha
  | fail e => simp [hrest] at ha
  | report event rest =>
    refine .inl ?_
    dsimp only
    rw [land_flights, if_pos rfl, Flight.rest_settled]
    exact .report event rest
  | call c rest =>
    dsimp only
    split
    · rename_i hwait
      have hout : i ∉ s.holders := by simp_all
      refine .inr ⟨hout, fun hroom => ?_⟩
      rw [if_pos hroom]
      exact List.mem_cons_self
    · refine .inl ?_
      unfold served
      rw [land_flights, if_pos rfl, Flight.rest_settled]
      exact .call c rest _

/-! ## Moves without an end -/

variable {next : Nat → Move ι}

theorem Busy.upTo (h : Busy s) (n : Nat) : Busy (s.upTo next n) := by
  induction n with
  | zero => exact h
  | succ n ih =>
    rw [upTo_succ]
    exact ih.move _

theorem upTo_limit (n : Nat) : (s.upTo next n).limit = s.limit := by
  induction n with
  | zero => rfl
  | succ n ih => rw [upTo_succ, move_limit, ih]

theorem upTo_gone (hstay : ∀ n, next n ≠ .leave i) (n : Nat) :
    ((s.upTo next n).flights i).gone = (s.flights i).gone := by
  induction n with
  | zero => rfl
  | succ n ih => rw [upTo_succ, move_gone (hstay n), ih]

/-- From some moment on nothing more is done of a call, and it is not dropped any more. -/
theorem eventually_quiet (s : System ι) (next : Nat → Move ι) (j : ι) :
    ∃ n, ∀ m, n ≤ m → ((s.upTo next (m + 1)).flights j).rest = ((s.upTo next m).flights j).rest ∧
      ((s.upTo next (m + 1)).flights j).gone = ((s.upTo next m).flights j).gone := by
  obtain ⟨n, hn⟩ : ∃ n, ∀ m, n ≤ m → ((s.upTo next m).flights j).rest = ((s.upTo next n).flights j).rest := by
    refine eventually_still fun n => ?_
    rw [upTo_succ]
    exact next_move ..
  have hrest {m : Nat} (hm : n ≤ m) : ((s.upTo next (m + 1)).flights j).rest = ((s.upTo next m).flights j).rest := by
    rw [hn (m + 1) (by omega), hn m hm]
  by_cases hgone : ∃ k, ((s.upTo next k).flights j).gone = true
  · obtain ⟨k, hk⟩ := hgone
    have hstays (m : Nat) (hm : k ≤ m) : ((s.upTo next m).flights j).gone = true := by
      induction m, hm using Nat.le_induction with
      | base => exact hk
      | succ m _ ih =>
        rw [upTo_succ]
        exact gone_of_gone ih
    refine ⟨max n k, fun m hm => ⟨hrest (by omega), ?_⟩⟩
    rw [hstays (m + 1) (by omega), hstays m (by omega)]
  · have hhere (m : Nat) : ((s.upTo next m).flights j).gone = false := by
      simpa using fun h => hgone ⟨m, h⟩
    exact ⟨n, fun m hm => ⟨hrest hm, by rw [hhere, hhere]⟩⟩

/-- When every call gets its turn again and again, each one whose caller stays is answered. -/
theorem exists_answer [Finite ι] (hbusy : Busy s) (hlimit : 0 < s.limit)
    (hfair : ∀ i n, ∃ m, n ≤ m ∧ next m = .advance i) (hstay : ∀ n, next n ≠ .leave i)
    (hgone : (s.flights i).gone = false) : ∃ n, ((s.upTo next n).flights i).answer?.isSome = true := by
  by_contra hno
  have hgoes (n : Nat) : ((s.upTo next n).flights i).isOver = false := by
    have hnone : ((s.upTo next n).flights i).answer? = none := by simpa using fun h => hno ⟨n, h⟩
    simp [Flight.isOver, upTo_gone hstay, hgone, hnone]
  choose start hstart using eventually_quiet s next
  obtain ⟨n, hn⟩ := Finite.exists_le start
  have hquiet {j : ι} {m : Nat} (hm : n ≤ m) (hturn : next m = .advance j) :
      ¬ Next ((s.upTo next m).move (.advance j) |>.flights j).rest ((s.upTo next m).flights j).rest := by
    rw [← hturn, ← upTo_succ, (hstart j m ((hn j).trans hm)).1]
    exact fun hnext => hnext.ne rfl
  -- nobody has a connection any more, because it would be used
  have hfree {m : Nat} (hm : n ≤ m) : (s.upTo next m).holders = [] := by
    refine List.eq_nil_iff_forall_not_mem.2 fun j hj => ?_
    have hkeeps (m' : Nat) (hm' : m ≤ m') : j ∈ (s.upTo next m').holders := by
      induction m', hm' using Nat.le_induction with
      | base => exact hj
      | succ m' hle ih =>
        obtain ⟨hrest, hgone⟩ := hstart j m' ((hn j).trans (hm.trans hle))
        rw [upTo_succ] at hrest hgone ⊢
        exact mem_holders_move (hbusy.upTo m') ih hrest hgone
    obtain ⟨m', hm', hturn⟩ := hfair j m
    rcases next_advance (hbusy.upTo m' j (hkeeps m' hm')) with hnext | ⟨hout, -⟩
    · exact hquiet (hm.trans hm') hturn hnext
    · exact hout (hkeeps m' hm')
  obtain ⟨m, hm, hturn⟩ := hfair i n
  rcases next_advance (hgoes m) with hnext | ⟨-, hgets⟩
  · exact hquiet hm hturn hnext
  · have hholds := hgets (by rw [hfree hm, upTo_limit]; exact hlimit)
    rw [← hturn, ← upTo_succ, hfree (by omega)] at hholds
    cases hholds

end Roster.Relational.System
