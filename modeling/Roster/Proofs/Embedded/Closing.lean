import Roster.Proofs.Embedded.Phases
import Roster.Proofs.Embedded.Progress

/-!
# Closing among other calls

The handle of the file is swapped out by the first closing, and nobody gets it afterwards. A call
that took it before keeps it, though, and a write on its way is still committed. So whatever changes
the tables after a closing is the commit of a call that took the handle before it.
-/

namespace Roster.Embedded

open Script Operation

/-! ## Calls that are refused the handle -/

/-- The call asks for the handle. -/
def Call.isTakeHandle {β : Type} : Call β → Bool
  | .takeHandle => true
  | _ => false

/-- A reply that the call may have from a store that is closed. -/
def Call.Refusing : {β : Type} → Call β → β → Prop
  | _, .takeHandle, b => b = false
  | _, _, _ => True

variable {α β : Type}

/-- Where the handle is refused, the operation does not commit, and meets `post` if it ends well. -/
def Barred (post : α → Prop) : Operation α → Prop
  | .done a => post a
  | .fail _ => True
  | .report _ rest => Barred post rest
  | .call c rest => c.isCommit = false ∧ ∀ b, c.Refusing b → Barred post (rest (.ok b))

namespace Barred

variable {post : α → Prop} {post' : β → Prop} {s : Operation α} {f : α → Operation β}

theorem bind (h : Barred post s) (h' : ∀ a, post a → Barred post' (f a)) : Barred post' (s >>= f) := by
  show Barred post' (s.bind f)
  induction s with
  | done a => exact h' a h
  | fail e => trivial
  | report event rest ih => exact ih h
  | call c rest ih =>
    obtain ⟨hc, hrest⟩ := h
    exact ⟨hc, fun b hb => ih (.ok b) (hrest b hb)⟩

theorem ask {c : Call α} (hc : c.isCommit = false) (name : String) : Barred c.Refusing (Operation.ask name c) :=
  ⟨hc, fun _ hb => hb⟩

/-- What would follow on a part that does not end well. -/
theorem stop (h : Barred (fun _ => False) s) (f : α → Operation β) : Barred post' (s >>= f) :=
  h.bind fun _ hfalse => hfalse.elim

end Barred

theorem barred_enter (name : String) : Barred (fun _ => False) (enter name) := by
  refine (Barred.ask rfl name).bind fun isOpen hrefused => ?_
  cases hrefused
  trivial

/-- What is fit goes on to enter the store. -/
theorem barred_requireFit {post : β → Prop} {f : Unit → Operation β} (reason : Option Unfit) (h : Barred post (f ())) :
    Barred post (requireFit reason >>= f) := by
  cases reason with
  | none => exact h
  | some reason => trivial

/-- No operation gets past a store that is closed. -/
theorem barred_ofRequest (path : String) (q : Request) : Barred (fun _ => True) (ofRequest path q) := by
  have hreturn {α : Type} {s : Operation α} (h : Barred (fun _ => True) s) (f : α → Answer) :
      Barred (fun _ => True) (s >>= fun a => pure (f a)) := h.bind fun _ _ => trivial
  cases q with
  | create u => exact hreturn (barred_requireFit _ ((barred_enter _).stop _)) _
  | update u => exact hreturn (barred_requireFit _ ((barred_enter _).stop _)) _
  | delete email => exact hreturn (barred_requireFit _ ((barred_enter _).stop _)) _
  | user email => exact hreturn (barred_requireFit _ ((barred_enter _).stop _)) _
  | users => exact hreturn ((barred_enter _).stop _) _
  | usersByRole role =>
    refine hreturn ?_ _
    unfold getUsersByRole
    cases hasNul role with
    | true => trivial
    | false => exact (barred_enter _).stop _
  | liveRoles => exact hreturn ((barred_enter _).stop _) _
  | memberCount => exact hreturn ((barred_enter _).stop _) _
  | close =>
    refine hreturn ((Barred.ask rfl _).bind fun wasOpen _ => ?_) _
    cases wasOpen <;> trivial

/-! ## What a call of the engine does to the store -/

theorem serve_tables {c : Call β} (hc : c.isCommit = false) (st : Shared × Caller) :
    (serve c st).2.1.tables = st.1.tables := by
  cases c with
  | commit => cases hc
  | _ => rfl

theorem serve_closed (c : Call β) {st : Shared × Caller} (h : st.1.isOpen = false) :
    (serve c st).2.1.isOpen = false := by
  obtain ⟨shared, view, gone, handed⟩ := st
  cases c with
  | commit => cases view <;> exact h
  | dropHandle => rfl
  | _ => exact h

namespace System

variable {ι : Type}

/-! ## How far the closings have got -/

/-- A closing takes the handle away and reports, or it fails. -/
theorem ofRequest_close (path : String) : ∃ rest, ofRequest path .close = .call .dropHandle rest ∧
    rest (.ok true) = .report (.embeddedClosed path) (.done .done) ∧ rest (.ok false) = .fail .closed :=
  ⟨_, rfl, rfl, rfl⟩

/-- How far the closings have got of a store that was open. -/
inductive Closings (path : String) (q : ι → Request) (s : System ι) : Prop where
  | none (isOpen : s.shared.isOpen = true)
      (asking : ∀ c, q c = .close → (s.flights c).rest = ofRequest path .close)
  | first (c : ι) (isClose : q c = .close) (isClosed : s.shared.isOpen = false)
      (told : (s.flights c).rest = .report (.embeddedClosed path) (.done .done) ∨ (s.flights c).rest = .done .done)
      (others : ∀ c', q c' = .close → c' ≠ c →
        (s.flights c').rest = ofRequest path .close ∨ (s.flights c').rest = .fail .closed)

theorem Closings.isClosed {path : String} {q : ι → Request} {s : System ι} (h : Closings path q s) {c : ι}
    (hc : q c = .close) (ha : (s.flights c).answer?.isSome = true) : s.shared.isOpen = false := by
  cases h with
  | none _ asking =>
    obtain ⟨rest, hclose, -⟩ := ofRequest_close path
    simp [Flight.answer?, asking c hc, hclose] at ha
  | first _ _ isClosed => exact isClosed

variable [DecidableEq ι]

/-! ## What a move does -/

/-- What a move comes to for the store and for what is left of the calls. -/
inductive Turn (s : System ι) (m : Move ι) : Prop where
  | quiet (shared_eq : (s.move m).shared = s.shared)
      (rest : ∀ j, ((s.move m).flights j).rest = (s.flights j).rest ∨
        ∃ event, (s.flights j).rest = .report event ((s.move m).flights j).rest)
  | served (i : ι) (hm : m = .advance i) (hgo : (s.flights i).goesOn = true) {β : Type} {c : Call β}
      {rest : Except String β → Operation Answer} (hrest : (s.flights i).rest = .call c rest)
      (hmove : s.move m = s.served i c rest)

theorem turn (s : System ι) (m : Move ι) : Turn s m := by
  have hstill (h : s.move m = s) : Turn s m := .quiet (by rw [h]) fun j => .inl (by rw [h])
  have hupdate {i : ι} {f : Flight}
      (hf : f.rest = (s.flights i).rest ∨ ∃ event, (s.flights i).rest = .report event f.rest) (j : ι) :
      (Function.update s.flights i f j).rest = (s.flights j).rest ∨
        ∃ event, (s.flights j).rest = .report event (Function.update s.flights i f j).rest := by
    by_cases hj : j = i
    · subst hj
      simpa using hf
    · simp [hj]
  cases m with
  | leave i => exact .quiet rfl (hupdate (.inl rfl))
  | advance i =>
    by_cases hgo : (s.flights i).goesOn = true
    swap
    · exact hstill (by simp [move, advance, hgo])
    cases hrest : (s.flights i).rest with
    | done a => exact hstill (by simp [move, advance, hgo, hrest])
    | fail e => exact hstill (by simp [move, advance, hgo, hrest])
    | report event rest =>
      have hmove : s.move (.advance i) = s.land i s.shared { s.flights i with rest := rest } s.commits := by
        simp [move, advance, hgo, hrest]
      refine .quiet (by rw [hmove]; rfl) ?_
      rw [hmove]
      exact hupdate (.inr ⟨event, hrest⟩)
    | call c rest =>
      by_cases hwait : (c.isBeginWrite && s.writer.isSome) = true
      · exact hstill (by simp [move, advance, hgo, hrest, hwait])
      · exact .served i rfl hgo hrest (by simp [move, advance, hgo, hrest, hwait])

section Served

variable {s : System ι} {i j : ι} {c : Call β} {rest : Except String β → Operation Answer} {b : β}

theorem served_shared : (s.served i c rest).shared = (serve c (s.shared, (s.flights i).caller)).2.1 := rfl

theorem served_rest_self (hb : (serve c (s.shared, (s.flights i).caller)).1 = .ok b) :
    ((s.served i c rest).flights i).rest = rest (.ok b) := by
  rw [flights_served, if_pos rfl, hb]

theorem served_rest_of_ne (hj : j ≠ i) : ((s.served i c rest).flights j).rest = (s.flights j).rest := by
  rw [flights_served, if_neg hj]

end Served

variable {s : System ι} {m : Move ι} {i j : ι}

/-- A store that was closed stays closed. -/
theorem isOpen_of_move (h : (s.move m).shared.isOpen = true) : s.shared.isOpen = true := by
  cases s.turn m with
  | quiet shared_eq => rwa [shared_eq] at h
  | served i _ _ _ hmove =>
    rw [hmove, served_shared] at h
    by_contra hclosed
    rw [serve_closed _ (by simpa using hclosed)] at h
    cases h

theorem isOpen_of_run {moves : List (Move ι)} (h : (s.run moves).shared.isOpen = true) : s.shared.isOpen = true := by
  induction moves generalizing s with
  | nil => exact h
  | cons m moves ih => exact isOpen_of_move (ih h)

/-- Only a commit changes the tables. -/
theorem commits_of_move (h : (s.move m).shared.tables ≠ s.shared.tables) :
    ∃ i, m = .advance i ∧ ¬ Barred (fun _ => True) (s.flights i).rest := by
  cases s.turn m with
  | quiet shared_eq => exact absurd (congrArg Shared.tables shared_eq) h
  | served i hm _ hrest hmove =>
    refine ⟨i, hm, fun hbarred => h ?_⟩
    rw [hrest] at hbarred
    rw [hmove, served_shared, serve_tables hbarred.1]

theorem run_append (s : System ι) (moves moves' : List (Move ι)) : s.run (moves ++ moves') = (s.run moves).run moves' :=
  List.foldl_append

theorem run_concat (s : System ι) (moves : List (Move ι)) (m : Move ι) : s.run (moves ++ [m]) = (s.run moves).move m :=
  run_append s moves [m]

/-! ## Who has the handle -/

end System

/-- The next step of the call is to take the handle. -/
def Flight.asksForHandle (f : Flight) : Bool :=
  match f.rest with
  | .call c _ => c.isTakeHandle
  | _ => false

namespace System

variable {ι : Type} [DecidableEq ι] {s : System ι} {m : Move ι} {i j : ι} {moves : List (Move ι)}

/-- One of the moves was that the call took the handle of the open file. -/
def HasTaken (s : System ι) (moves : List (Move ι)) (i : ι) : Prop :=
  ∃ before, before ++ [.advance i] <+: moves ∧ (s.run before).shared.isOpen = true ∧
    ((s.run before).flights i).goesOn = true ∧ ((s.run before).flights i).asksForHandle = true

theorem HasTaken.concat (h : HasTaken s moves i) (m : Move ι) : HasTaken s (moves ++ [m]) i := by
  obtain ⟨before, hbefore, htakes⟩ := h
  exact ⟨before, hbefore.trans (List.prefix_append _ _), htakes⟩

/-- Nobody takes the handle of a store that was closed. -/
theorem HasTaken.of_append {later : List (Move ι)} (h : HasTaken s (moves ++ later) i)
    (hclosed : (s.run moves).shared.isOpen = false) : HasTaken s moves i := by
  obtain ⟨before, hbefore, hopen, htakes⟩ := h
  refine ⟨before, ?_, hopen, htakes⟩
  rcases List.prefix_or_prefix_of_prefix hbefore (List.prefix_append moves later) with hpre | hpre
  · exact hpre
  rcases List.prefix_concat_iff.1 hpre with heq | hpre
  · rw [heq]
  · -- the handle would have been taken after the closing
    obtain ⟨between, rfl⟩ := hpre
    rw [run_append] at hopen
    rw [isOpen_of_run hopen] at hclosed
    cases hclosed

/-- A call that has not taken the handle does not commit when it is refused. -/
theorem hasTaken_or_barred (h : ∀ i, Barred (fun _ => True) (s.flights i).rest) (moves : List (Move ι)) (i : ι) :
    HasTaken s moves i ∨ Barred (fun _ => True) ((s.run moves).flights i).rest := by
  induction moves using List.reverseRecOn with
  | nil => exact .inr (h i)
  | append_singleton moves m ih =>
    rcases ih with htaken | hbarred
    · exact .inl (htaken.concat m)
    rw [run_concat]
    cases (s.run moves).turn m with
    | quiet _ rest =>
      rcases rest i with hrest | ⟨event, hrest⟩
      · exact .inr (hrest ▸ hbarred)
      · rw [hrest] at hbarred
        exact .inr hbarred
    | @served j hm hgo β c rest hrest hmove =>
      by_cases hj : i = j
      swap
      · rw [hmove, served_rest_of_ne hj]
        exact .inr hbarred
      subst hj hm
      rw [hrest] at hbarred
      obtain ⟨b, hb⟩ := serve_ok c ((s.run moves).shared, ((s.run moves).flights i).caller)
      rw [hmove, served_rest_self hb]
      cases c with
      | takeHandle =>
        cases hb
        cases hopen : (s.run moves).shared.isOpen with
        | true =>
          have hasks : ((s.run moves).flights i).asksForHandle = true := by
            simp [Flight.asksForHandle, hrest, Call.isTakeHandle]
          exact .inl ⟨moves, List.prefix_refl _, hopen, hgo, hasks⟩
        | false => exact .inr (hbarred.2 false rfl)
      | _ => exact .inr (hbarred.2 b trivial)

/-! ## Moves of the closings -/

theorem follows_move {post : Answer → Phase → Prop} {p : Phase} (h : Follows post (s.flights i).rest p) (m : Move ι) :
    ∃ p', Follows post ((s.move m).flights i).rest p' := by
  have hm := s.moved m i
  generalize (s.move m).flights i = f at hm ⊢
  cases hm with
  | same => exact ⟨p, h⟩
  | left => exact ⟨p, h⟩
  | reported _ hrest =>
    rw [hrest] at h
    exact ⟨p, h⟩
  | @served _ β c rest hrest =>
    rw [hrest] at h
    obtain ⟨b, hb⟩ := serve_ok c (s.shared, (s.flights i).caller)
    obtain ⟨p', -, hp'⟩ := h b
    exact ⟨p', hb ▸ hp'⟩

variable {path : String} {q : ι → Request}

theorem Closings.quiet (h : Closings path q s) (hshared : (s.move m).shared = s.shared)
    (hrest : ∀ j, ((s.move m).flights j).rest = (s.flights j).rest ∨
      ∃ event, (s.flights j).rest = .report event ((s.move m).flights j).rest) : Closings path q (s.move m) := by
  obtain ⟨rest, hclose, -, -⟩ := ofRequest_close path
  -- what has nothing to report stays as it is
  have hsame {j : ι} {a : Operation Answer} (ha : (s.flights j).rest = a) (hno : ∀ event rest, a ≠ .report event rest) :
      ((s.move m).flights j).rest = a := by
    rcases hrest j with hj | ⟨event, hj⟩
    · rw [hj, ha]
    · exact absurd (ha.symm.trans hj) (hno _ _)
  cases h with
  | none isOpen asking =>
    refine .none (by rw [hshared, isOpen]) fun c hc => hsame (asking c hc) ?_
    rw [hclose]
    nofun
  | first c isClose isClosed told others =>
    refine .first c isClose (by rw [hshared, isClosed]) ?_ fun c' hc' hne => ?_
    · rcases told with hreport | hdone
      · rcases hrest c with hc | ⟨event, hc⟩
        · exact .inl (hc.trans hreport)
        · exact .inr (Script.report.inj (hreport.symm.trans hc)).2.symm
      · exact .inr (hsame hdone nofun)
    · rcases others c' hc' hne with hasking | hfail
      · refine .inl (hsame hasking ?_)
        rw [hclose]
        nofun
      · exact .inr (hsame hfail nofun)

theorem Closings.served (h : Closings path q s)
    (hworks : q i ≠ .close → ∃ p, Follows (fun _ => Phase.mayAnswer) (s.flights i).rest p)
    {β : Type} {c : Call β} {rest : Except String β → Operation Answer} (hrest : (s.flights i).rest = .call c rest) :
    Closings path q (s.served i c rest) := by
  obtain ⟨reply, hclose, htrue, hfalse⟩ := ofRequest_close path
  by_cases hi : q i = .close
  · cases h with
    | none isOpen asking =>
      rw [asking i hi, hclose] at hrest
      cases hrest
      refine .first i hi rfl (.inl ?_) fun c' hc' hne => .inl ?_
      · rw [served_rest_self rfl, isOpen, htrue]
      · rw [served_rest_of_ne hne, asking c' hc']
    | first c isClose isClosed told others =>
      have hne : i ≠ c := by
        rintro rfl
        rcases told with htold | htold <;> rw [htold] at hrest <;> cases hrest
      rcases others i hi hne with hasking | hfail
      swap
      · rw [hfail] at hrest
        cases hrest
      rw [hasking, hclose] at hrest
      cases hrest
      refine .first c isClose rfl ?_ fun c' hc' hne' => ?_
      · rwa [served_rest_of_ne hne.symm]
      · by_cases hc'i : c' = i
        · subst hc'i
          rw [served_rest_self rfl, isClosed, hfalse]
          exact .inr rfl
        · rw [served_rest_of_ne hc'i]
          exact others c' hc' hne'
  · -- no other call takes the handle away, and the closings are left as they were
    obtain ⟨p, hp⟩ := hworks hi
    rw [hrest] at hp
    obtain ⟨b, -⟩ := serve_ok c (s.shared, (s.flights i).caller)
    obtain ⟨p', hnext, -⟩ := hp b
    have hopen : (s.served i c rest).shared.isOpen = s.shared.isOpen :=
      serve_isOpen hnext (s.shared, (s.flights i).caller)
    have hother {c' : ι} (hc' : q c' = .close) : ((s.served i c rest).flights c').rest = (s.flights c').rest :=
      served_rest_of_ne (by rintro rfl; exact hi hc')
    cases h with
    | none isOpen asking =>
      exact .none (hopen.trans isOpen) fun c' hc' => (hother hc').trans (asking c' hc')
    | first c' isClose isClosed told others =>
      refine .first c' isClose (hopen.trans isClosed) ?_ fun c'' hc'' hne => ?_
      · rwa [hother isClose]
      · rw [hother hc'']
        exact others c'' hc'' hne

/-- The closings get as far in any moves. -/
theorem closings_run (path : String) (tables : Tables) (q : ι → Request) (moves : List (Move ι)) :
    Closings path q ((start path ⟨true, tables⟩ q).run moves) := by
  have hall : Closings path q ((start path ⟨true, tables⟩ q).run moves) ∧ ∀ i, q i ≠ .close →
      ∃ p, Follows (fun _ => Phase.mayAnswer) (((start path ⟨true, tables⟩ q).run moves).flights i).rest p := by
    induction moves using List.reverseRecOn with
    | nil => exact ⟨.none rfl fun c hc => congrArg (ofRequest path) hc, fun i hi => ⟨_, follows_ofRequest path hi⟩⟩
    | append_singleton moves m ih =>
      obtain ⟨hclosings, hworks⟩ := ih
      rw [run_concat]
      refine ⟨?_, fun i hi => ?_⟩
      · cases ((start path ⟨true, tables⟩ q).run moves).turn m with
        | quiet hshared hrest => exact hclosings.quiet hshared hrest
        | served i _ _ hrest hmove =>
          rw [hmove]
          exact hclosings.served (hworks i) hrest
      · obtain ⟨p, hp⟩ := hworks i hi
        exact follows_move hp m
  exact hall.1

/-- One closing is done, and the others are told that the store is closed. -/
theorem Closings.answers (h : Closings path q s) {c : ι} (hc : q c = .close) :
    ∃ w, q w = .close ∧ ∀ c a, q c = .close → (s.flights c).answer? = some a →
      a = if c = w then .ok .done else .error .closed := by
  obtain ⟨rest, hclose, -⟩ := ofRequest_close path
  cases h with
  | none _ asking =>
    refine ⟨c, hc, fun c' a hc' ha => ?_⟩
    simp [Flight.answer?, asking c' hc', hclose] at ha
  | first w isClose _ told others =>
    refine ⟨w, isClose, fun c' a hc' ha => ?_⟩
    by_cases hw : c' = w
    · subst hw
      rw [if_pos rfl]
      rcases told with htold | htold <;> simp [Flight.answer?, htold] at ha
      exact ha.symm
    · rw [if_neg hw]
      rcases others c' hc' hw with hasking | hfail
      · simp [Flight.answer?, hasking, hclose] at ha
      · simpa [Flight.answer?, hfail] using ha.symm

/-! ## Turns of one call -/

end System

/-- So many steps are left at most, none of which has to wait. -/
def Within : Nat → Operation α → Prop
  | _, .done _ => True
  | _, .fail _ => True
  | 0, .report .. => False
  | 0, .call .. => False
  | n + 1, .report _ rest => Within n rest
  | n + 1, .call c rest => c.isBeginWrite = false ∧ ∀ r, Within n (rest r)

namespace Within

variable {n : Nat} {s s' : Operation α}

theorem succ (h : Within n s) : Within (n + 1) s := by
  induction s generalizing n with
  | done a => trivial
  | fail e => trivial
  | report event rest ih =>
    cases n with
    | zero => exact h.elim
    | succ n => exact ih h
  | call c rest ih =>
    cases n with
    | zero => exact h.elim
    | succ n => exact ⟨h.1, fun r => ih r (h.2 r)⟩

theorem next (h : Within (n + 1) s) (hs : Next s' s) : Within n s' := by
  cases hs with
  | report => exact h
  | call c rest r => exact h.2 r

theorem not_next (h : Within 0 s) : ¬ Next s' s := by
  rintro (_ | _) <;> exact h

theorem not_asksToWrite {f : Flight} (h : Within n f.rest) : f.asksToWrite = false := by
  unfold Flight.asksToWrite
  cases hrest : f.rest with
  | call c rest =>
    rw [hrest] at h
    cases n with
    | zero => exact h.elim
    | succ n => exact h.1
  | _ => rfl

end Within

theorem within_of_answer {f : Flight} {a : Except StoreError Answer} (h : f.answer? = some a) (n : Nat) :
    Within n f.rest := by
  unfold Flight.answer? at h
  split at h
  · rename_i hrest
    cases n <;> simp only [hrest, Within]
  · rename_i hrest
    cases n <;> simp only [hrest, Within]
  · cases h

theorem within_close (path : String) : Within 2 (ofRequest path .close) := by
  refine ⟨rfl, fun r => ?_⟩
  match r with
  | .ok true | .ok false | .error _ => exact trivial

namespace System

variable {ι : Type} [DecidableEq ι] {s : System ι} {i : ι}

/-- A call whose caller stays ends when it has had its turns. -/
theorem answered_of_turns {n : Nat} {moves : List (Move ι)} (h : Within n (s.flights i).rest)
    (hgone : (s.flights i).caller.gone = false) (hturns : (List.replicate n (.advance i)).Sublist moves)
    (hstay : .leave i ∉ moves) : ((s.run moves).flights i).answer?.isSome = true := by
  induction moves generalizing s n with
  | nil =>
    obtain rfl : n = 0 := by simpa using hturns
    show (s.flights i).answer?.isSome = true
    unfold Flight.answer?
    cases hrest : (s.flights i).rest with
    | done a => rfl
    | fail e => rfl
    | report event rest => exact (hrest ▸ h : Within 0 (.report event rest)).elim
    | call c rest => exact (hrest ▸ h : Within 0 (.call c rest)).elim
  | cons m moves ih =>
    obtain ⟨hm, hmoves⟩ : .leave i ≠ m ∧ .leave i ∉ moves := by simpa using hstay
    have hgone' : ((s.move m).flights i).caller.gone = false := (move_gone hm.symm).trans hgone
    have hsame : Within n ((s.move m).flights i).rest := by
      rcases next_move s m i with hrest | hnext
      · exact hrest ▸ h
      · cases n with
        | zero => exact absurd hnext h.not_next
        | succ n => exact (h.next hnext).succ
    rcases List.sublist_cons_iff.1 hturns with hlater | ⟨later, hlater, hsub⟩
    · exact ih hsame hgone' hlater hmoves
    cases n with
    | zero => cases hlater
    | succ n =>
      obtain ⟨rfl, rfl⟩ := List.cons.inj hlater
      refine ih ?_ hgone' hsub hmoves
      -- this turn leaves one step less, or the call was answered before
      rcases next_move s (.advance i) i with hrest | hnext
      · rw [hrest]
        cases ha : (s.flights i).answer? with
        | none =>
          have hgo : (s.flights i).goesOn = true := by simp [Flight.goesOn, hgone]
          have hnext := next_advance hgo ha fun hasks => by simp [h.not_asksToWrite] at hasks
          exact absurd hrest hnext.ne
        | some a => exact within_of_answer ha n
      · exact h.next hnext

/-! ## What is left of a store after its closing -/

/-- However a closing meets other calls: after it was done, only a call that had taken the handle
before changes the tables any more. Of any number of closings the first one is done and all others
are told that the store is closed, each when it has had its two turns. -/
theorem changes_after_close (path : String) (tables : Tables) (q : ι → Request) :
    let begun := start path ⟨true, tables⟩ q
    (∀ moves c, q c = .close → ((begun.run moves).flights c).answer? = some (.ok .done) →
      ∀ later m, ((begun.run (moves ++ later)).move m).shared.tables ≠ (begun.run (moves ++ later)).shared.tables →
        ∃ i, m = .advance i ∧ HasTaken begun moves i) ∧
    (∀ moves, (∃ c, q c = .close) → ∃ w, q w = .close ∧ ∀ c a, q c = .close →
      ((begun.run moves).flights c).answer? = some a → a = if c = w then .ok .done else .error .closed) ∧
    ∀ moves c, q c = .close → (List.replicate 2 (.advance c)).Sublist moves → .leave c ∉ moves →
      ((begun.run moves).flights c).answer?.isSome = true := by
  intro begun
  have hclosings := closings_run path tables q
  refine ⟨fun moves c hc ha later m hchange => ?_, fun moves ⟨c, hc⟩ => (hclosings moves).answers hc,
    fun moves c hc hturns hstay => ?_⟩
  · have hclosed := (hclosings moves).isClosed hc (by rw [ha]; rfl)
    obtain ⟨i, hm, hcommits⟩ := commits_of_move hchange
    refine ⟨i, hm, ?_⟩
    rcases hasTaken_or_barred (s := begun) (fun j => barred_ofRequest path (q j)) (moves ++ later) i with htaken | hbarred
    · exact htaken.of_append hclosed
    · exact absurd hbarred hcommits
  · have hwithin : Within 2 (begun.flights c).rest := by
      simp only [begun, start, hc]
      exact within_close path
    exact answered_of_turns hwithin rfl hturns hstay

/-- A creation takes the handle, two closings come in between, and the creation goes on. -/
theorem changes_after_close_of_holder :
    let q : Fin 3 → Request
      | 0 => .create ⟨"ada@example.org", "Ada", ["admin"]⟩
      | 1 | 2 => .close
    let begun := start "users.redb" ⟨true, .empty⟩ q
    let moves : List (Move (Fin 3)) := [.advance 0, .advance 0, .advance 1, .advance 2, .advance 2, .advance 1]
    let later : List (Move (Fin 3)) := List.replicate 8 (.advance 0)
    ((begun.run (moves ++ later)).move (.advance 0)).shared.tables ≠ (begun.run (moves ++ later)).shared.tables ∧
      (∃ i, .advance 0 = Move.advance i ∧ HasTaken begun moves i) ∧
      (∃ w, q w = .close ∧ ∀ c a, q c = .close → ((begun.run moves).flights c).answer? = some a →
        a = if c = w then .ok .done else .error .closed) ∧
      ((begun.run moves).flights 2).answer?.isSome = true := by
  intro q begun moves later
  simp only [begun]
  obtain ⟨hchanges, hanswers, hturns⟩ := changes_after_close "users.redb" .empty q
  have hdone : (((start "users.redb" ⟨true, .empty⟩ q).run moves).flights 1).answer? = some (.ok .done) := by
    decide +kernel
  have hrows :
      (((start "users.redb" ⟨true, .empty⟩ q).run (moves ++ later)).move (.advance 0)).shared.tables.users.rows.length ≠
        ((start "users.redb" ⟨true, .empty⟩ q).run (moves ++ later)).shared.tables.users.rows.length := by decide +kernel
  have hchange : (((start "users.redb" ⟨true, .empty⟩ q).run (moves ++ later)).move (.advance 0)).shared.tables ≠
      ((start "users.redb" ⟨true, .empty⟩ q).run (moves ++ later)).shared.tables :=
    fun h => hrows (congrArg (fun t : Tables => t.users.rows.length) h)
  refine ⟨hchange, hchanges moves 1 rfl hdone later (.advance 0) hchange, hanswers moves ⟨1, rfl⟩,
    hturns moves 2 rfl ?_ (by simp [moves])⟩
  exact List.IsInfix.sublist ⟨[.advance 0, .advance 0, .advance 1], [.advance 1], rfl⟩

/-- A closing does not keep a call with the handle from storing its user. -/
theorem user_created_after_close :
    let q : Fin 2 → Request
      | 0 => .create ⟨"a", "", ["r"]⟩
      | 1 => .close
    let s := (start "store.redb" ⟨true, .empty⟩ q).run [.advance 0, .advance 0, .advance 1, .advance 1]
    (s.flights 1).answer? = some (.ok .done) ∧ (s.shared.tables.users.find? "a").isSome = false ∧
      ((s.run (List.replicate 9 (.advance 0))).shared.tables.users.find? "a").isSome = true := by
  decide +kernel

end System

end Roster.Embedded
