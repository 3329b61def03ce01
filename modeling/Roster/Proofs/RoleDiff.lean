import Mathlib.Data.List.Nodup
import Roster.Proofs.ItemSet
import Roster.Proofs.Script

/-!
# Changing roles by their difference

A difference is what has to be changed and nothing else: no shorter way leads from one set to the other.
Carrying it out calls the effects that have something to do, in turn, up to the first that fails. How an
effect is carried out makes no difference: one that runs at once and one that is waited for are two forms
of the same.
-/

namespace Roster

open Log

/-! ## Single changes -/

/-- A change of one role. -/
inductive Change where
  | remove (role : String)
  | add (role : String)
  deriving DecidableEq

namespace ItemSet

/-- The set after one role has been changed. -/
def change (s : ItemSet String) : Change → ItemSet String
  | .remove role => s.erase role
  | .add role => s.insert role

/-- The set after changes in turn. -/
def after (s : ItemSet String) (changes : List Change) : ItemSet String := changes.foldl change s

variable {s : ItemSet String} {x : String} {l : List String} {changes : List Change}

theorem after_append (s : ItemSet String) (changes changes' : List Change) :
    s.after (changes ++ changes') = (s.after changes).after changes' := List.foldl_append ..

theorem mem_after_remove : x ∈ (s.after (l.map .remove)).items ↔ x ∈ s.items ∧ x ∉ l := by
  induction l generalizing s with
  | nil => simp [after]
  | cons role l ih =>
    rw [List.map_cons, after, List.foldl_cons, ← after, ih, change, mem_erase, List.mem_cons]
    tauto

theorem mem_after_add : x ∈ (s.after (l.map .add)).items ↔ x ∈ s.items ∨ x ∈ l := by
  induction l generalizing s with
  | nil => simp [after]
  | cons role l ih =>
    rw [List.map_cons, after, List.foldl_cons, ← after, ih, change, mem_insert, List.mem_cons]
    tauto

/-- A role that is lost has been removed. -/
theorem remove_mem (hx : x ∈ s.items) (h : x ∉ (s.after changes).items) : .remove x ∈ changes := by
  induction changes generalizing s with
  | nil => exact absurd hx h
  | cons c changes ih =>
    by_cases hc : x ∈ (s.change c).items
    · exact List.mem_cons_of_mem _ (ih hc h)
    · cases c with
      | remove role =>
        rw [change, mem_erase] at hc
        have : x = role := by tauto
        rw [this]
        exact List.mem_cons_self
      | add role =>
        rw [change, mem_insert] at hc
        exact absurd (.inr hx) hc

/-- A role that is won has been added. -/
theorem add_mem (hx : x ∉ s.items) (h : x ∈ (s.after changes).items) : .add x ∈ changes := by
  induction changes generalizing s with
  | nil => exact absurd h hx
  | cons c changes ih =>
    by_cases hc : x ∈ (s.change c).items
    · cases c with
      | remove role =>
        rw [change, mem_erase] at hc
        exact absurd hc.2 hx
      | add role =>
        rw [change, mem_insert] at hc
        rw [hc.resolve_right hx]
        exact List.mem_cons_self
    · exact List.mem_cons_of_mem _ (ih hc h)

end ItemSet

namespace RoleDiff

variable {previous next : ItemSet String} {d : RoleDiff} {way : List Change}

/-- The single changes that a difference comes to. -/
def changes (d : RoleDiff) : List Change := d.toRemove.items.map .remove ++ d.toAdd.items.map .add

theorem length_changes (d : RoleDiff) : d.changes.length = d.toRemove.size + d.toAdd.size := by
  simp [RoleDiff.changes, ItemSet.size]

theorem mem_after_changes {s : ItemSet String} {x : String} :
    x ∈ (s.after d.changes).items ↔ x ∈ s.items ∧ x ∉ d.toRemove.items ∨ x ∈ d.toAdd.items := by
  rw [RoleDiff.changes, ItemSet.after_append, ItemSet.mem_after_add, ItemSet.mem_after_remove]

theorem nodup_changes (d : RoleDiff) : d.changes.Nodup := by
  have hremove : (d.toRemove.items.map Change.remove).Nodup :=
    List.Nodup.map (fun _ _ h => Change.remove.inj h) d.toRemove.nodup
  have hadd : (d.toAdd.items.map Change.add).Nodup :=
    List.Nodup.map (fun _ _ h => Change.add.inj h) d.toAdd.nodup
  refine List.nodup_append.2 ⟨hremove, hadd, ?_⟩
  intro c hc c' hc' he
  obtain ⟨role, -, rfl⟩ := List.mem_map.1 hc
  obtain ⟨role', -, rfl⟩ := List.mem_map.1 hc'
  cases he

/-- Every way from one set to the other makes all changes of the difference. -/
theorem changes_subset (h : between previous next = some d)
    (hc : ∀ x, x ∈ (previous.after way).items ↔ x ∈ next.items) : d.changes ⊆ way := by
  obtain ⟨hremove, hadd⟩ := between_some h
  intro c hmem
  rcases List.mem_append.1 hmem with hmem | hmem
  · obtain ⟨role, hrole, rfl⟩ := List.mem_map.1 hmem
    obtain ⟨hprevious, hnext⟩ := (hremove role).1 hrole
    exact ItemSet.remove_mem hprevious fun hx => hnext ((hc role).1 hx)
  · obtain ⟨role, hrole, rfl⟩ := List.mem_map.1 hmem
    obtain ⟨hnext, hprevious⟩ := (hadd role).1 hrole
    exact ItemSet.add_mem hprevious ((hc role).2 hnext)

theorem length_changes_le (h : between previous next = some d)
    (hc : ∀ x, x ∈ (previous.after way).items ↔ x ∈ next.items) :
    d.toRemove.size + d.toAdd.size ≤ way.length := by
  rw [← d.length_changes]
  exact (List.subperm_of_subset d.nodup_changes (changes_subset h hc)).length_le

theorem between_eq_none : between previous next = none ↔ ∀ x, x ∈ previous.items ↔ x ∈ next.items := by
  refine ⟨between_none, fun h => ?_⟩
  rw [between, if_pos (ItemSet.sameAs_iff.2 h)]

/-- The difference is what has to be changed, and nothing else. -/
structure Exact (previous next : ItemSet String) (d : RoleDiff) : Prop where
  toRemove : ∀ x, x ∈ d.toRemove.items ↔ x ∈ previous.items ∧ x ∉ next.items
  toAdd : ∀ x, x ∈ d.toAdd.items ↔ x ∈ next.items ∧ x ∉ previous.items
  disjoint : ∀ x ∈ d.toRemove.items, x ∉ d.toAdd.items
  nonempty : ¬ (d.toRemove.items = [] ∧ d.toAdd.items = [])
  leads : ∀ x, x ∈ (previous.after d.changes).items ↔ x ∈ next.items
  least : ∀ way, (∀ x, x ∈ (previous.after way).items ↔ x ∈ next.items) →
    d.toRemove.size + d.toAdd.size ≤ way.length

theorem exact_of_between (h : between previous next = some d) : Exact previous next d := by
  obtain ⟨hremove, hadd⟩ := between_some h
  have hleads : ∀ x, x ∈ (previous.after d.changes).items ↔ x ∈ next.items := by
    intro x
    rw [mem_after_changes, hremove, hadd]
    tauto
  refine ⟨hremove, hadd, fun x hx hx' => ?_, ?_, hleads, fun way => length_changes_le h⟩
  · exact ((hremove x).1 hx).2 ((hadd x).1 hx').1
  · rintro ⟨hnone, hnone'⟩
    -- without anything to change the sets would be the same
    have hsame : ∀ x, x ∈ previous.items ↔ x ∈ next.items := by
      intro x
      have hx := hremove x
      have hx' := hadd x
      rw [hnone] at hx
      rw [hnone'] at hx'
      simp only [List.not_mem_nil, false_iff, not_and, not_not] at hx hx'
      exact ⟨hx, hx'⟩
    rw [between_eq_none.2 hsame] at h
    cases h

end RoleDiff

/-! ## Carrying a difference out -/

/-- A call of one of the two effects. -/
inductive RoleCall where
  | remove (roles : ItemSet String)
  | add (roles : ItemSet String)

/-- What each call comes to, success or an error, and the state that it leaves. -/
abbrev Effects (σ ε : Type) := RoleCall → σ → Except ε Unit × σ

/-- What has come of some calls, the state they have left, and which calls have been made. -/
structure Carried (σ ε : Type) where
  answer : Except ε Unit
  state : σ
  made : List RoleCall

/-- The calls that a difference asks for. -/
def RoleDiff.calls (d : RoleDiff) : List RoleCall :=
  (if d.toRemove.isEmpty then [] else [.remove d.toRemove]) ++ if d.toAdd.isEmpty then [] else [.add d.toAdd]

theorem ItemSet.isEmpty_iff {s : ItemSet String} : s.isEmpty = true ↔ s.items = [] := List.isEmpty_iff

namespace RoleDiff

variable {d : RoleDiff} {c : RoleCall}

theorem calls_sublist (d : RoleDiff) : d.calls.Sublist [.remove d.toRemove, .add d.toAdd] := by
  unfold calls
  refine List.Sublist.append (?_ : List.Sublist _ [_]) (?_ : List.Sublist _ [_])
  · split
    · exact List.nil_sublist _
    · exact List.Sublist.refl _
  · split
    · exact List.nil_sublist _
    · exact List.Sublist.refl _

theorem mem_calls :
    c ∈ d.calls ↔ c = .remove d.toRemove ∧ d.toRemove.items ≠ [] ∨ c = .add d.toAdd ∧ d.toAdd.items ≠ [] := by
  rw [calls, List.mem_append]
  simp only [ne_eq, ← ItemSet.isEmpty_iff]
  by_cases hremove : d.toRemove.isEmpty = true <;> by_cases hadd : d.toAdd.isEmpty = true <;>
    simp [hremove, hadd]

end RoleDiff

namespace Effects

variable {σ ε : Type} {effects : Effects σ ε} {calls : List RoleCall} {s t : σ} {e : ε}

/-- Makes calls in turn, up to the first that fails. -/
def perform (effects : Effects σ ε) : List RoleCall → σ → Carried σ ε
  | [], s => ⟨.ok (), s, []⟩
  | c :: calls, s =>
    match effects c s with
    | (.ok (), s') =>
      let o := effects.perform calls s'
      { o with made := c :: o.made }
    | (.error e, s') => ⟨.error e, s', [c]⟩

theorem perform_cons_ok {c : RoleCall} (h : effects c s = (.ok (), t)) :
    effects.perform (c :: calls) s =
      { effects.perform calls t with made := c :: (effects.perform calls t).made } := by
  rw [perform, h]

theorem perform_cons_error {c : RoleCall} (h : effects c s = (.error e, t)) :
    effects.perform (c :: calls) s = ⟨.error e, t, [c]⟩ := by
  rw [perform, h]

/-- The calls that are made are the first ones. -/
theorem made_isPrefix : (effects.perform calls s).made <+: calls := by
  induction calls generalizing s with
  | nil => exact List.nil_prefix
  | cons c calls ih =>
    cases h : effects c s with
    | mk answer t =>
      cases answer with
      | ok _ =>
        rw [perform_cons_ok h]
        exact List.prefix_cons_inj c |>.2 ih
      | error e =>
        rw [perform_cons_error h]
        exact ⟨calls, rfl⟩

/-- When all goes well, all calls are made. -/
theorem made_of_ok (h : (effects.perform calls s).answer = .ok ()) : (effects.perform calls s).made = calls := by
  induction calls generalizing s with
  | nil => rfl
  | cons c calls ih =>
    cases hc : effects c s with
    | mk answer t =>
      cases answer with
      | ok _ =>
        rw [perform_cons_ok hc] at h ⊢
        exact congrArg _ (ih h)
      | error e =>
        rw [perform_cons_error hc] at h
        cases h

/-- An error is that of the last call made, and the calls before it have gone well. -/
theorem failing_last (h : (effects.perform calls s).answer = .error e) :
    ∃ before c t, (effects.perform calls s).made = before ++ [c] ∧
      effects.perform before s = ⟨.ok (), t, before⟩ ∧
      effects c t = (.error e, (effects.perform calls s).state) := by
  induction calls generalizing s with
  | nil => cases h
  | cons c calls ih =>
    cases hc : effects c s with
    | mk answer s' =>
      cases answer with
      | ok _ =>
        rw [perform_cons_ok hc] at h ⊢
        obtain ⟨before, c', t, hmade, hbefore, hfails⟩ := ih h
        refine ⟨c :: before, c', t, congrArg _ hmade, ?_, hfails⟩
        rw [perform_cons_ok hc, hbefore]
      | error e' =>
        rw [perform_cons_error hc] at h ⊢
        cases h
        exact ⟨[], c, s, rfl, rfl, hc⟩

/-- Effects that note down each call. -/
def logged (effects : Effects σ ε) : Effects (σ × List RoleCall) ε := fun c s =>
  ((effects c s.1).1, ((effects c s.1).2, s.2 ++ [c]))

theorem perform_logged (effects : Effects σ ε) (calls : List RoleCall) (s : σ) (log : List RoleCall) :
    effects.logged.perform calls (s, log) =
      let o := effects.perform calls s
      ⟨o.answer, (o.state, log ++ o.made), o.made⟩ := by
  induction calls generalizing s log with
  | nil => simp [perform]
  | cons c calls ih =>
    rw [perform, perform, logged]
    rcases effects c s with ⟨_ | _, s'⟩
    · rfl
    · simp [ih]

/-- Effects that always succeed, and that delete and insert entries of an index which the state holds. -/
structure Keep (effects : Effects σ ε) (index : σ → Set String) : Prop where
  remove : ∀ roles s, ∃ t, effects (.remove roles) s = (.ok (), t) ∧ index t = index s \ {x | x ∈ roles.items}
  add : ∀ roles s, ∃ t, effects (.add roles) s = (.ok (), t) ∧ index t = index s ∪ {x | x ∈ roles.items}

/-- Removing what is to be removed and adding what is to be added: a set without roles needs no call. -/
theorem Keep.perform_calls {index : σ → Set String} (h : effects.Keep index) (d : RoleDiff) (s : σ) :
    (effects.perform d.calls s).answer = .ok () ∧
      index (effects.perform d.calls s).state =
        (index s \ {x | x ∈ d.toRemove.items}) ∪ {x | x ∈ d.toAdd.items} := by
  -- what the call for a set comes to, made or not
  have hremove : ∀ calls, ∃ t, index t = index s \ {x | x ∈ d.toRemove.items} ∧
      (effects.perform ((if d.toRemove.isEmpty then [] else [.remove d.toRemove]) ++ calls) s).answer =
        (effects.perform calls t).answer ∧
      (effects.perform ((if d.toRemove.isEmpty then [] else [.remove d.toRemove]) ++ calls) s).state =
        (effects.perform calls t).state := by
    intro calls
    split
    · rename_i hnone
      refine ⟨s, ?_, rfl, rfl⟩
      simp [ItemSet.isEmpty_iff.1 hnone]
    · obtain ⟨t, ht, hindex⟩ := h.remove d.toRemove s
      refine ⟨t, hindex, ?_, ?_⟩ <;> rw [List.singleton_append, perform_cons_ok ht]
  have hadd : ∀ t, (effects.perform (if d.toAdd.isEmpty then [] else [.add d.toAdd]) t).answer = .ok () ∧
      index (effects.perform (if d.toAdd.isEmpty then [] else [.add d.toAdd]) t).state =
        index t ∪ {x | x ∈ d.toAdd.items} := by
    intro t
    split
    · rename_i hnone
      refine ⟨rfl, ?_⟩
      simp [ItemSet.isEmpty_iff.1 hnone, perform]
    · obtain ⟨u, hu, hindex⟩ := h.add d.toAdd t
      rw [perform_cons_ok hu]
      exact ⟨rfl, hindex⟩
  obtain ⟨t, hindex, hanswer, hstate⟩ := hremove (if d.toAdd.isEmpty then [] else [.add d.toAdd])
  rw [RoleDiff.calls, hanswer, hstate, (hadd t).2, hindex]
  exact ⟨(hadd t).1, rfl⟩

/-- How a difference is to be carried out with two effects: which calls are made, in what order, and what
comes of them. -/
structure InTurn (effects : Effects σ ε) (d : RoleDiff) (s : σ) (o : Carried σ ε) : Prop where
  /-- At most one removal, then at most one addition, of just these roles. -/
  ordered : o.made.Sublist [.remove d.toRemove, .add d.toAdd]
  /-- No effect is called for nothing. -/
  removes : .remove d.toRemove ∈ o.made → d.toRemove.items ≠ []
  adds : .add d.toAdd ∈ o.made → d.toAdd.items ≠ []
  /-- What is to be removed is asked to be removed, whatever comes of it. -/
  removed : d.toRemove.items ≠ [] → .remove d.toRemove ∈ o.made
  /-- Success means that nothing has been left out. -/
  added : o.answer = .ok () → d.toAdd.items ≠ [] → .add d.toAdd ∈ o.made
  /-- The calls have been made on the states that the ones before them left. -/
  threaded : effects.perform o.made s = o
  /-- Removing has failed: nothing is added, and this is the error. -/
  refused : ∀ e t, d.toRemove.items ≠ [] → effects (.remove d.toRemove) s = (.error e, t) →
    o = ⟨.error e, t, [.remove d.toRemove]⟩
  /-- Any error is that of the last call, after calls that have gone well. -/
  failing : ∀ e, o.answer = .error e → ∃ before c t, o.made = before ++ [c] ∧
    effects.perform before s = ⟨.ok (), t, before⟩ ∧ effects c t = (.error e, o.state)

theorem perform_made : effects.perform (effects.perform calls s).made s = effects.perform calls s := by
  induction calls generalizing s with
  | nil => rfl
  | cons c calls ih =>
    cases h : effects c s with
    | mk answer t =>
      cases answer with
      | ok _ =>
        rw [perform_cons_ok h, perform_cons_ok h, ih]
      | error e =>
        rw [perform_cons_error h, perform_cons_error h]

theorem inTurn (effects : Effects σ ε) (d : RoleDiff) (s : σ) : effects.InTurn d s (effects.perform d.calls s) where
  ordered := made_isPrefix.sublist.trans d.calls_sublist
  removes h := by
    rcases RoleDiff.mem_calls.1 (made_isPrefix.subset h) with ⟨-, hsome⟩ | ⟨hc, -⟩
    · exact hsome
    · cases hc
  adds h := by
    rcases RoleDiff.mem_calls.1 (made_isPrefix.subset h) with ⟨hc, -⟩ | ⟨-, hsome⟩
    · cases hc
    · exact hsome
  removed h := by
    have hcalls : d.calls = .remove d.toRemove :: if d.toAdd.isEmpty then [] else [.add d.toAdd] := by
      rw [RoleDiff.calls, if_neg (mt ItemSet.isEmpty_iff.1 h), List.singleton_append]
    rw [hcalls, perform]
    rcases effects (.remove d.toRemove) s with ⟨_ | _, t⟩ <;> exact List.mem_cons_self
  added h hsome := by
    rw [made_of_ok h]
    exact RoleDiff.mem_calls.2 (.inr ⟨rfl, hsome⟩)
  threaded := perform_made
  refused e t hsome h := by
    rw [RoleDiff.calls, if_neg (mt ItemSet.isEmpty_iff.1 hsome), List.singleton_append, perform_cons_error h]
  failing _ h := failing_last h

end Effects

/-! ## Forms of computation -/

/-- A form of computation. From a state, a computation comes to a value or an error and to another state; one
that fails ends the whole of which it is a part; and reports leave the state alone. -/
structure Form (m : Type → Type u) [Monad m] [Reports m] (σ ε : Type) where
  run : {α : Type} → m α → σ → Except ε α × σ
  run_pure : ∀ {α : Type} (a : α) (s : σ), run (pure a) s = (.ok a, s)
  run_bind : ∀ {α β : Type} (x : m α) (f : α → m β) (s : σ),
    run (x >>= f) s =
      match run x s with
      | (.ok a, s') => run (f a) s'
      | (.error e, s') => (.error e, s')
  run_report : ∀ (event : Event) (s : σ), run (Reports.report event) s = (.ok (), s)

namespace Form

variable {m : Type → Type u} [Monad m] [Reports m] {σ ε : Type} (F : Form m σ ε)

/-- What calls of two effects come to in a form of computation. -/
def effects (remove add : ItemSet String → m Unit) : Effects σ ε
  | .remove roles => F.run (remove roles)
  | .add roles => F.run (add roles)

variable (remove add : ItemSet String → m Unit)

/-- Carrying a difference out makes the calls that it asks for. -/
theorem run_apply (d : RoleDiff) (s : σ) :
    F.run (d.apply remove add) s =
      let o := (F.effects remove add).perform d.calls s
      (o.answer, o.state) := by
  -- the last part, with or without anything to add
  have hlast : ∀ s, F.run (if d.toAdd.isEmpty then pure () else add d.toAdd) s =
      let o := (F.effects remove add).perform (if d.toAdd.isEmpty then [] else [.add d.toAdd]) s
      (o.answer, o.state) := by
    intro s
    split
    · exact F.run_pure () s
    · rw [Effects.perform, effects]
      rcases F.run (add d.toAdd) s with ⟨_ | _, t⟩ <;> rfl
  unfold RoleDiff.apply RoleDiff.calls
  rw [F.run_bind, F.run_report]
  by_cases hremove : d.toRemove.isEmpty
  · rw [if_pos hremove, if_pos hremove]
    exact hlast s
  · rw [if_neg hremove, if_neg hremove, List.singleton_append]
    simp only [F.run_bind, hlast, Effects.perform, Form.effects]
    rcases F.run (remove d.toRemove) s with ⟨_ | _, t⟩ <;> rfl

/-- Adjusting roles carries the difference out, if there is one. -/
theorem run_adjustRoles (previous next : ItemSet String) (s : σ) :
    F.run (adjustRoles previous next remove add) s =
      match RoleDiff.between previous next with
      | none => (.ok false, s)
      | some d =>
        let o := (F.effects remove add).perform d.calls s
        (o.answer.map fun _ => true, o.state) := by
  unfold adjustRoles
  cases RoleDiff.between previous next with
  | none => exact F.run_pure false s
  | some d =>
    simp only [F.run_bind, F.run_pure, run_apply]
    cases ((F.effects remove add).perform d.calls s).answer <;> rfl

end Form

/-- A computation that runs at once. -/
def Direct (σ ε α : Type) := σ → Except ε α × σ

namespace Direct

variable {σ ε : Type}

instance : Monad (Direct σ ε) where
  pure a s := (.ok a, s)
  bind x f s :=
    match x s with
    | (.ok a, s') => f a s'
    | (.error e, s') => (.error e, s')

instance : Reports (Direct σ ε) where
  report _ := pure ()

end Direct

section Forms

variable {ι : Type → Type} {φ σ ε : Type}

/-- Calling an effect and having its result. -/
def Form.direct : Form (Direct σ ε) σ ε where
  run x := x
  run_pure _ _ := rfl
  run_bind _ _ _ := rfl
  run_report _ _ := rfl

/-- Calling an effect and waiting for its result, which an engine serves. -/
def Form.awaited (serve : Script.Server ι φ σ) : Form (Script ι φ ε) σ ε where
  run x s := ((x.run serve s).answer, (x.run serve s).state)
  run_pure _ _ := rfl
  run_bind x f s := by
    rw [Script.run_bind, Script.Outcome.andThen]
    cases (x.run serve s).answer <;> rfl
  run_report _ _ := rfl

/-- A call of an effect that an engine serves. -/
inductive ServedCall : Type → Type where
  | effect (c : RoleCall) : ServedCall Unit

/-- An engine that serves calls of effects. -/
def Effects.serve (effects : Effects σ ε) : Script.Server ServedCall ε σ
  | _, .effect c, s => effects c s

/-- Any two effects can be called in either form. -/
theorem effects_direct (effects : Effects σ ε) :
    Form.direct.effects (fun roles => effects (.remove roles)) (fun roles => effects (.add roles)) = effects := by
  funext c s
  cases c <;> rfl

theorem effects_awaited (effects : Effects σ ε) :
    (Form.awaited effects.serve).effects (fun roles => .ask id (.effect (.remove roles)))
      (fun roles => .ask id (.effect (.add roles))) = effects := by
  funext c s
  cases c with
  | remove roles =>
    simp only [Form.effects, Form.awaited, Script.ask, Script.run, Effects.serve]
    rcases effects (.remove roles) s with ⟨_ | _, t⟩ <;> rfl
  | add roles =>
    simp only [Form.effects, Form.awaited, Script.ask, Script.run, Effects.serve]
    rcases effects (.add roles) s with ⟨_ | _, t⟩ <;> rfl

/-- Effects on an index of roles: they delete and insert its entries. -/
def Effects.entries : Effects (ItemSet String) ε
  | .remove roles, s => (.ok (), s.after (roles.items.map .remove))
  | .add roles, s => (.ok (), s.after (roles.items.map .add))

theorem Effects.entries_keep : (Effects.entries : Effects (ItemSet String) ε).Keep fun s => {x | x ∈ s.items} where
  remove roles s := by
    refine ⟨_, rfl, ?_⟩
    ext x
    exact ItemSet.mem_after_remove
  add roles s := by
    refine ⟨_, rfl, ?_⟩
    ext x
    exact ItemSet.mem_after_add

end Forms

/-! ## Differences, exact and in turn -/

variable {m : Type → Type u} [Monad m] [Reports m] {n : Type → Type v} [Monad n] [Reports n] {σ ε : Type}

/-- A difference between two sets is exact and least, and it is carried out in turn, in every form alike. Only
equal sets have none; then no effect is called. Effects may do anything to the state and may fail; they are
told here by what a call comes to, with each call noted down. -/
theorem roles_changed_by_difference (previous next : ItemSet String) (effects : Effects σ ε)
    (F : Form m (σ × List RoleCall) ε) (remove add : ItemSet String → m Unit)
    (hF : F.effects remove add = effects.logged)
    (G : Form n (σ × List RoleCall) ε) (remove' add' : ItemSet String → n Unit)
    (hG : G.effects remove' add' = effects.logged) :
    (RoleDiff.between previous next = none ↔ ∀ x, x ∈ previous.items ↔ x ∈ next.items) ∧
    (∀ d, RoleDiff.between previous next = some d → RoleDiff.Exact previous next d) ∧
    (∀ (d : RoleDiff) (s : σ), ∃ o : Carried σ ε, effects.InTurn d s o ∧
      F.run (d.apply remove add) (s, []) = (o.answer, (o.state, o.made)) ∧
      G.run (d.apply remove' add') (s, []) = (o.answer, (o.state, o.made)) ∧
      ∀ index, effects.Keep index →
        o.answer = .ok () ∧
          index o.state = (index s \ {x | x ∈ d.toRemove.items}) ∪ {x | x ∈ d.toAdd.items}) ∧
    ∀ s : σ,
      F.run (adjustRoles previous next remove add) (s, []) = G.run (adjustRoles previous next remove' add') (s, []) ∧
      ((F.run (adjustRoles previous next remove add) (s, [])).1 = .ok false ↔
        ∀ x, x ∈ previous.items ↔ x ∈ next.items) ∧
      match RoleDiff.between previous next with
      | none => F.run (adjustRoles previous next remove add) (s, []) = (.ok false, (s, []))
      | some d => ∃ o : Carried σ ε, effects.InTurn d s o ∧
        F.run (adjustRoles previous next remove add) (s, []) =
          (o.answer.map fun _ => true, (o.state, o.made)) := by
  have happly : ∀ (d : RoleDiff) (s : σ), effects.logged.perform d.calls (s, []) =
      let o := effects.perform d.calls s
      ⟨o.answer, (o.state, o.made), o.made⟩ := fun d s => effects.perform_logged d.calls s []
  refine ⟨RoleDiff.between_eq_none, fun d => RoleDiff.exact_of_between, fun d s => ?_, fun s => ?_⟩
  · refine ⟨effects.perform d.calls s, effects.inTurn d s, ?_, ?_, fun index h => h.perform_calls d s⟩
    · rw [F.run_apply, hF, happly]
    · rw [G.run_apply, hG, happly]
  · have hadjust : F.run (adjustRoles previous next remove add) (s, []) =
        G.run (adjustRoles previous next remove' add') (s, []) := by
      rw [F.run_adjustRoles, G.run_adjustRoles, hF, hG]
    refine ⟨hadjust, ?_⟩
    rw [F.run_adjustRoles, hF, ← RoleDiff.between_eq_none]
    cases RoleDiff.between previous next with
    | none => exact ⟨⟨fun _ => rfl, fun _ => rfl⟩, rfl⟩
    | some d =>
      simp only [happly]
      refine ⟨⟨fun h => ?_, nofun⟩, effects.perform d.calls s, effects.inTurn d s, rfl⟩
      -- a difference that has been carried out is not the answer that there was none
      cases ho : (effects.perform d.calls s).answer with
      | ok _ => rw [ho] at h; cases h
      | error e => rw [ho] at h; cases h

/-- Both forms bring an index from one set of roles to another, by one removal and one addition. -/
theorem roles_changed_by_difference_entries :
    let previous := ItemSet.ofList ["admin", "editor"]
    let next := ItemSet.ofList ["editor", "viewer"]
    let effects : Effects (ItemSet String × List RoleCall) String := Effects.entries.logged
    ∃ (d : RoleDiff) (o : Carried (ItemSet String) String),
      RoleDiff.between previous next = some d ∧ RoleDiff.Exact previous next d ∧
      Form.direct.run (d.apply (fun roles => effects (.remove roles)) fun roles => effects (.add roles))
        (previous, []) = (o.answer, (o.state, o.made)) ∧
      (Form.awaited effects.serve).run
        (d.apply (fun roles => .ask id (.effect (.remove roles))) fun roles => .ask id (.effect (.add roles)))
        (previous, []) = (o.answer, (o.state, o.made)) ∧
      o.answer = .ok () ∧
      {x | x ∈ o.state.items} =
        ({x | x ∈ previous.items} \ {x | x ∈ d.toRemove.items}) ∪ {x | x ∈ d.toAdd.items} := by
  intro previous next effects
  obtain ⟨-, hexact, happly, -⟩ := roles_changed_by_difference previous next Effects.entries
    Form.direct _ _ (effects_direct effects) (Form.awaited effects.serve) _ _ (effects_awaited effects)
  obtain ⟨o, -, hdirect, hawaited, hindex⟩ :=
    happly ⟨previous.difference next, next.difference previous⟩ previous
  have hbetween : RoleDiff.between previous next = some ⟨previous.difference next, next.difference previous⟩ := by
    rw [RoleDiff.between, if_neg]
    decide
  exact ⟨_, o, hbetween, hexact _ hbetween, hdirect, hawaited, hindex _ Effects.entries_keep⟩

end Roster
