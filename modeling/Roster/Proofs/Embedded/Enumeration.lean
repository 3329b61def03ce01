import Roster.Proofs.Embedded.Runs

/-!
# The order in which roles are met

A set lists its elements in an order that carries no meaning and that may be another one each time. Where the
index is patched this order is the order of the calls, and for it nothing is promised. Calls for different roles
of one email work on different keys, though, so any two of them can trade places, and with them all: whatever
the order, the same index is left, and the same entries are reported missing. What follows the patch sees no
difference, and so no mutation depends on the order, and no history of mutations.
-/

namespace Roster

/-- The outcomes have the same answer, leave the same, and report the same, in whatever order. -/
structure Script.Outcome.Alike {σ ε α : Type} (o o' : Script.Outcome σ ε α) : Prop where
  answer : o.answer = o'.answer
  state : o.state = o'.state
  events : o.events.Perm o'.events

/-- An order in which the elements of each set of texts are met. -/
structure ItemSet.Enumeration where
  order : ItemSet String → ItemSet String
  perm (s : ItemSet String) : (order s).items.Perm s.items

/-- Each set backwards. -/
def ItemSet.Enumeration.backwards : Enumeration :=
  ⟨fun s => ⟨s.items.reverse, List.nodup_reverse.2 s.nodup⟩, fun s => s.items.reverse_perm⟩

namespace Embedded

open Log Script

/-! ## Exact patches -/

variable {index : Index} {email : String} {roles : List String}

/-- A patch of the entries of some roles of an email: each of these is `entry` afterwards, all other keys have
the values that they had, and their rows stand in the order in which they stood. -/
structure Patches (email : String) (roles : List String) (entry : Option Bytes) (before after : Index) : Prop where
  entries (role : String) (hrole : role ∈ roles) : after.find? (memberKey role email) = entry
  others (key : Bytes) (hkey : ∀ role ∈ roles, key ≠ memberKey role email) : after.find? key = before.find? key
  places : (after.rows.filter fun row => row.1 ∉ roles.map (memberKey · email)) =
    before.rows.filter fun row => row.1 ∉ roles.map (memberKey · email)

theorem Patches.of_find? {entry : Option Bytes} {before after : Index}
    (h : ∀ key, after.find? key = if ∃ role ∈ roles, key = memberKey role email then entry else before.find? key) :
    Patches email roles entry before after where
  entries role hrole := by rw [h, if_pos ⟨role, hrole, rfl⟩]
  others key hkey := by rw [h, if_neg fun ⟨role, hrole, he⟩ => hkey role hrole he]
  places := by
    let other (key : Bytes) (_ : Bytes) : Bool := key ∉ roles.map (memberKey · email)
    have hother : after.filter other = before.filter other := by
      refine KeyTable.ext_find? fun key => ?_
      rw [KeyTable.find?_filter, KeyTable.find?_filter]
      by_cases hkey : ∃ role ∈ roles, key = memberKey role email
      · have hno : other key = fun _ => false := by
          obtain ⟨role, hrole, rfl⟩ := hkey
          funext value
          exact decide_eq_false fun hnot => hnot (List.mem_map_of_mem hrole)
        rw [hno]
        cases after.find? key <;> cases before.find? key <;> rfl
      · rw [h, if_neg hkey]
    exact congrArg KeyTable.rows hother

theorem withMembers_perm {roles' : List String} (h : roles.Perm roles') :
    withMembers index email roles = withMembers index email roles' :=
  KeyTable.ext_find? fun key => by simp only [find?_withMembers, h.mem_iff]

theorem withoutMembers_perm {roles' : List String} (h : roles.Perm roles') :
    withoutMembers index email roles = withoutMembers index email roles' :=
  KeyTable.ext_find? fun key => by simp only [find?_withoutMembers, h.mem_iff]

/-! ## Operations that differ in order only -/

namespace Operation

variable {α β : Type}

/-- Started in any state, the operations have outcomes that differ in the order of reports only. -/
def Alike (s s' : Operation α) : Prop := ∀ st, (s.run serve st).Alike (s'.run serve st)

namespace Alike

theorem refl (s : Operation α) : Alike s s := fun _ => ⟨rfl, rfl, .rfl⟩

theorem trans {s s' s'' : Operation α} (h : Alike s s') (h' : Alike s' s'') : Alike s s'' := fun st =>
  ⟨(h st).answer.trans (h' st).answer, (h st).state.trans (h' st).state, (h st).events.trans (h' st).events⟩

theorem bind {s s' : Operation α} {f f' : α → Operation β} (h : Alike s s') (hf : ∀ a, Alike (f a) (f' a)) :
    Alike (s >>= f) (s' >>= f') := by
  intro st
  obtain ⟨hanswer, hstate, hevents⟩ := h st
  rw [run_bind, run_bind, Outcome.andThen, Outcome.andThen, ← hanswer, ← hstate]
  cases (s.run serve st).answer with
  | error e => exact ⟨rfl, rfl, hevents⟩
  | ok a =>
    obtain ⟨hanswer', hstate', hevents'⟩ := hf a (s.run serve st).state
    exact ⟨hanswer', hstate', hevents.append hevents'⟩

theorem after (s : Operation α) {f f' : α → Operation β} (h : ∀ a, Alike (f a) (f' a)) : Alike (s >>= f) (s >>= f') :=
  bind (refl s) h

theorem before {s s' : Operation α} (h : Alike s s') (f : α → Operation β) : Alike (s >>= f) (s' >>= f) :=
  bind h fun a => refl (f a)

/-- When any two steps can trade places, all can. -/
theorem forM_perm {f : α → Operation Unit}
    (hswap : ∀ a b, Alike (do f a; f b) (do f b; f a)) {l l' : List α} (h : l.Perm l') :
    Alike (l.forM f) (l'.forM f) := by
  induction h with
  | nil => exact refl _
  | cons a _ ih => exact after (f a) fun _ => ih
  | swap a b l =>
    have hfront (a b : α) : (a :: b :: l).forM f = (do f a; f b : Operation Unit) >>= fun _ => l.forM f :=
      (Script.bind_assoc (f a) (fun _ => f b) fun _ => l.forM f).symm
    rw [hfront, hfront]
    exact before (hswap b a) _
  | trans _ _ ih ih' => exact trans ih ih'

end Alike

/-! ## Patches in any order -/

theorem addMembers_perm (email : String) {roles roles' : ItemSet String} (h : roles.items.Perm roles'.items) :
    Alike (addMembers email roles) (addMembers email roles') := by
  refine .after _ fun _ => .forM_perm (fun role role' st => ?_) h
  simp only [run_bind, run_ask, serve, View.tables, andThen_ok_nil, KeyTable.insert_comm _ (memberKey role email)]
  exact ⟨rfl, rfl, .rfl⟩

/-- Takes a role of a user out of the index. -/
def removeMember (email role : String) : Operation Unit := do
  unless ← ask "remove_roles" (.takeMember (memberKey role email)) do
    Reports.report (.entryMissing email role)

theorem run_removeMember (email role : String) (shared : Shared) (caller : Caller) :
    (removeMember email role).run serve (shared, caller) =
      ⟨.ok (), (shared, { caller with view := .writing { caller.view.tables with
          index := caller.view.tables.index.erase (memberKey role email) } }),
        if caller.view.tables.index.has (memberKey role email) then [] else [.entryMissing email role]⟩ := by
  rw [removeMember, run_bind, run_ask]
  simp only [serve, andThen_ok_nil]
  split <;> rfl

theorem removeMembers_perm (email : String) {roles roles' : ItemSet String} (h : roles.items.Perm roles'.items) :
    Alike (removeMembers email roles) (removeMembers email roles') := by
  refine .after _ fun _ => .forM_perm (f := removeMember email) (fun role role' => ?_) h
  by_cases hne : role = role'
  · rw [hne]
    exact .refl _
  rintro ⟨shared, caller⟩
  have hkey : memberKey role email ≠ memberKey role' email := mt memberKey_inj_role.1 hne
  -- neither removal hides from the other whether its own entry was there
  simp only [run_bind, run_removeMember, View.tables, andThen_ok, KeyTable.has_erase, ne_eq, hkey, hkey.symm,
    not_false_eq_true, decide_true, Bool.true_and, KeyTable.erase_comm _ (memberKey role email)]
  exact ⟨rfl, rfl, List.perm_append_comm⟩

/-! ## Mutations -/

/-- Brings the index from one role set of a user to another, and meets the elements of all sets in some order. -/
def syncIndexIn (e : ItemSet.Enumeration) (email : String) (previous next : ItemSet String) : Operation Unit := do
  let changed ← adjustRoles (e.order previous) (e.order next)
    (fun gone => removeMembers email (e.order gone)) fun new => addMembers email (e.order new)
  unless changed do Reports.report (.indexUntouched email)

theorem sameAs_order (e : ItemSet.Enumeration) (previous next : ItemSet String) :
    (e.order previous).sameAs (e.order next) = previous.sameAs next := by
  rw [Bool.eq_iff_iff, ItemSet.sameAs_iff, ItemSet.sameAs_iff]
  simp only [(e.perm previous).mem_iff, (e.perm next).mem_iff]

theorem difference_order (e : ItemSet.Enumeration) (s t : ItemSet String) :
    ((e.order s).difference (e.order t)).items.Perm (s.difference t).items := by
  refine (List.perm_ext_iff_of_nodup (ItemSet.nodup _) (ItemSet.nodup _)).2 fun role => ?_
  rw [ItemSet.mem_difference, ItemSet.mem_difference, (e.perm s).mem_iff, (e.perm t).mem_iff]

theorem apply_alike (e : ItemSet.Enumeration) (email : String) {d d' : RoleDiff}
    (hremove : d.toRemove.items.Perm d'.toRemove.items) (hadd : d.toAdd.items.Perm d'.toAdd.items) :
    Alike (d.apply (fun gone => removeMembers email (e.order gone)) fun new => addMembers email (e.order new))
      (d'.apply (removeMembers email) (addMembers email)) := by
  have hempty {s s' : ItemSet String} (h : s.items.Perm s'.items) : s.isEmpty = s'.isEmpty := h.isEmpty_eq
  have hsize {s s' : ItemSet String} (h : s.items.Perm s'.items) : s.size = s'.size := h.length_eq
  rw [RoleDiff.apply_eq, RoleDiff.apply_eq, hempty hremove, hempty hadd, hsize hremove, hsize hadd]
  refine .after _ fun _ => .bind ?_ fun _ => ?_
  · split
    · exact .refl _
    · exact removeMembers_perm email ((e.perm _).trans hremove)
  · split
    · exact .refl _
    · exact addMembers_perm email ((e.perm _).trans hadd)

theorem syncIndexIn_alike (e : ItemSet.Enumeration) (email : String) (previous next : ItemSet String) :
    Alike (syncIndexIn e email previous next) (syncIndex email previous next) := by
  refine .before ?_ _
  unfold adjustRoles RoleDiff.between
  rw [sameAs_order]
  cases previous.sameAs next with
  | true => exact .refl _
  | false => exact .before (apply_alike e email (difference_order e _ _) (difference_order e _ _)) _

section Sync

variable (sync sync' : String → ItemSet String → ItemSet String → Operation Unit)

/-- The operation that serves a request, with the index kept up by `sync`. -/
def ofRequestBy (path : String) : Request → Operation Answer
  | .create u => do createUserBy sync u; return .done
  | .update u => do updateUserBy sync u; return .done
  | .delete email => do deleteUserBy sync email; return .done
  | q => ofRequest path q

/-- The operations of the store are those with its own way to keep the index up. -/
theorem ofRequestBy_syncIndex (path : String) (q : Request) : ofRequestBy syncIndex path q = ofRequest path q := by
  cases q <;> rfl

variable {sync sync'}

/-- Ways to keep the index up that differ in order only make operations that differ in order only. -/
theorem ofRequestBy_alike (h : ∀ email previous next, Alike (sync email previous next) (sync' email previous next))
    (path : String) (q : Request) : Alike (ofRequestBy sync path q) (ofRequestBy sync' path q) := by
  cases q with
  | create u =>
    refine .before (.after _ fun _ => .after _ fun _ => .after _ fun _ => .after _ fun _ => .after _ fun found => ?_) _
    cases found.isSome with
    | true => exact .refl _
    | false => exact .after _ fun _ => .before (h _ _ _) _
  | update u =>
    refine .before (.after _ fun _ => .after _ fun _ => .after _ fun _ => .after _ fun _ => .after _ fun found => ?_) _
    cases found with
    | none => exact .refl _
    | some record => exact .after _ fun previous => .after _ fun _ => .before (h _ _ _) _
  | delete email =>
    refine .before (.after _ fun _ => .after _ fun _ => .after _ fun _ => .after _ fun _ => .after _ fun found => ?_) _
    cases found with
    | none => exact .refl _
    | some record => exact .after _ fun previous => .before (h _ _ _) _
  | user | users | usersByRole | liveRoles | memberCount | close => exact .refl _

end Sync

end Operation

/-! ## Histories -/

namespace Store

/-- Plays the operation of a request for a caller, and meets the elements of all sets in some order. -/
def playIn (e : ItemSet.Enumeration) (s : Store) (caller : Caller) (q : Request) :
    Script.Outcome (Shared × Caller) StoreError Answer :=
  (Operation.ofRequestBy (Operation.syncIndexIn e) s.path q).run serve (s.shared, caller)

theorem playIn_alike (e : ItemSet.Enumeration) (s : Store) (caller : Caller) (q : Request) :
    (s.playIn e caller q).Alike (s.play caller q) := by
  rw [play, ← Operation.ofRequestBy_syncIndex]
  exact Operation.ofRequestBy_alike (Operation.syncIndexIn_alike e) s.path q _

/-- What callers leave one after another. -/
def history (s : Store) : List (Caller × Request) → Store
  | [] => s
  | (caller, q) :: rest => history { s with shared := (s.play caller q).state.1 } rest

/-- What callers leave one after another, each meeting the elements of all sets in an order of its own. -/
def historyIn (s : Store) : List (ItemSet.Enumeration × Caller × Request) → Store
  | [] => s
  | (e, caller, q) :: rest => historyIn { s with shared := (s.playIn e caller q).state.1 } rest

theorem historyIn_eq (s : Store) (moves : List (ItemSet.Enumeration × Caller × Request)) :
    s.historyIn moves = s.history (moves.map (·.2)) := by
  induction moves generalizing s with
  | nil => rfl
  | cons move moves ih =>
    obtain ⟨e, caller, q⟩ := move
    rw [historyIn, ih, (s.playIn_alike e caller q).state]
    rfl

end Store

/-- For any index, any email and any roles there is one index that adding the entries of the roles leaves and one
that removing them leaves, in whatever order the roles are met: the first has the entries of all these roles, the
second of none, and in both all other rows are what and where they were. So a mutation has the same answer and
leaves the same, whatever the order in which it meets the elements of sets, and so has a history of mutations. -/
theorem patches_in_any_order (email : String) (roles : ItemSet String) :
    (∀ (shared : Shared) (t : Tables) (gone handed : Bool), ∃ more less : Index,
      Patches email roles.items (some []) t.index more ∧ Patches email roles.items none t.index less ∧
        ∀ roles' : ItemSet String, roles'.items.Perm roles.items →
          Leads serve (Operation.addMembers email roles') (shared, ⟨.writing t, gone, handed⟩)
              (.ok ()) (shared, ⟨.writing { t with index := more }, gone, handed⟩) ∧
            Leads serve (Operation.removeMembers email roles') (shared, ⟨.writing t, gone, handed⟩)
              (.ok ()) (shared, ⟨.writing { t with index := less }, gone, handed⟩)) ∧
      (∀ (e : ItemSet.Enumeration) (s : Store) (caller : Caller) (q : Request),
        (s.playIn e caller q).Alike (s.play caller q)) ∧
      ∀ (s : Store) (moves : List (ItemSet.Enumeration × Caller × Request)),
        s.historyIn moves = s.history (moves.map (·.2)) := by
  refine ⟨fun shared t gone handed => ?_, fun e s caller q => s.playIn_alike e caller q, Store.historyIn_eq⟩
  refine ⟨withMembers t.index email roles.items, withoutMembers t.index email roles.items,
    .of_find? fun _ => find?_withMembers, .of_find? fun _ => find?_withoutMembers, fun roles' h => ?_⟩
  unfold Leads
  rw [Operation.run_addMembers, Operation.run_removeMembers, withMembers_perm h, withoutMembers_perm h]
  exact ⟨⟨rfl, rfl⟩, rfl, rfl⟩

/-- A role whose entry is there already with a value of its own, one that begins with it, and a row of no role. -/
theorem patches_in_any_order_of_reversal :
    let roles : ItemSet String := .ofList ["a", "ab"]
    let index : Index := (KeyTable.empty.insert (memberKey "a" "e") [1]).insert [0xFF] [2]
    let t : Tables := ⟨.empty, index⟩
    let store : Store := ⟨"roster.redb", ⟨true, t⟩⟩
    let move := (Caller.waiting, Request.create ⟨"e", "E", ["a", "ab"]⟩)
    (∃ more less : Index,
      more.find? (memberKey "ab" "e") = some [] ∧ more.find? (memberKey "a" "e") = some [] ∧
        more.find? [0xFF] = some [2] ∧ less.find? (memberKey "a" "e") = none ∧ less.find? [0xFF] = some [2] ∧
        Leads serve (Operation.addMembers "e" (ItemSet.Enumeration.backwards.order roles))
          (⟨true, t⟩, ⟨.writing t, false, true⟩) (.ok ())
          (⟨true, t⟩, ⟨.writing { t with index := more }, false, true⟩) ∧
        Leads serve (Operation.removeMembers "e" (ItemSet.Enumeration.backwards.order roles))
          (⟨true, t⟩, ⟨.writing t, false, true⟩) (.ok ())
          (⟨true, t⟩, ⟨.writing { t with index := less }, false, true⟩)) ∧
      store.historyIn [(.backwards, move)] = store.history [move] := by
  intro roles index t store move
  obtain ⟨hpatch, -, hhistory⟩ := patches_in_any_order "e" roles
  obtain ⟨more, less, hmore, hless, hleads⟩ := hpatch ⟨true, t⟩ t false true
  obtain ⟨hadd, hremove⟩ := hleads _ (ItemSet.Enumeration.backwards.perm roles)
  have hother : ∀ role ∈ roles.items, [0xFF] ≠ memberKey role "e" := by decide
  refine ⟨⟨more, less, hmore.entries "ab" (by decide), hmore.entries "a" (by decide), ?_,
    hless.entries "a" (by decide), ?_, hadd, hremove⟩, hhistory store _⟩
  · exact (hmore.others [0xFF] hother).trans (by decide)
  · exact (hless.others [0xFF] hother).trans (by decide)

end Embedded

end Roster
