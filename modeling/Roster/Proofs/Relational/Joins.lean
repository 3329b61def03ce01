import Roster.Proofs.KeyTable
import Roster.Proofs.User
import Roster.Relational.Operations

/-!
# Joins taken apart

Joining puts a user beside each of its roles and a user without roles beside none; grouping undoes
it. As every user has one row, nobody's roles end up with somebody else, and since the role rows are
in key order, the roles of a user come out ascending.
-/

namespace Roster.Relational

open Database Operation

/-- The roles that rows have for an email, in their order. -/
def rolesFor (roles : List (String × String)) (email : String) : List String :=
  (roles.filter fun k => k.1 = email).map (·.2)

theorem mem_rolesFor {roles : List (String × String)} {email role : String} :
    role ∈ rolesFor roles email ↔ (email, role) ∈ roles := by
  simp [rolesFor]

/-- In key order the roles of one email are ascending. -/
theorem rolesFor_ascending {roles : List (String × String)} (h : Ascending roles) (email : String) :
    Ascending (rolesFor roles email) := by
  refine List.pairwise_map.2 ((h.filter _).imp_of_mem fun {a b} ha hb hab => ?_)
  have ha : a.1 = email := by simpa using (List.mem_filter.1 ha).2
  have hb : b.1 = email := by simpa using (List.mem_filter.1 hb).2
  simpa [KeyOrder.lt, ha, hb] using hab

/-! ## Grouping -/

section Grouping

variable {user : String × Option String} {groups : List ((String × Option String) × List String)}

/-- A row of a user that has no group yet begins one. -/
theorem addJoined_new (h : ∀ g ∈ groups, g.1.1 ≠ user.1) (role : Option String) :
    addJoined (user, role) groups = groups ++ [(user, role.toList)] := by
  induction groups with
  | nil => rfl
  | cons g groups ih =>
    rw [addJoined, if_neg (h g List.mem_cons_self), ih fun g hg => h g (List.mem_cons_of_mem _ hg)]
    rfl

/-- A row of the user of the last group adds to that group. -/
theorem addJoined_last (h : ∀ g ∈ groups, g.1.1 ≠ user.1) (own : List String) (role : Option String) :
    addJoined (user, role) (groups ++ [(user, own)]) = groups ++ [(user, own ++ role.toList)] := by
  induction groups with
  | nil => simp [addJoined]
  | cons g groups ih =>
    rw [List.cons_append, addJoined, if_neg (h g List.mem_cons_self),
      ih fun g hg => h g (List.mem_cons_of_mem _ hg)]
    rfl

theorem foldl_addJoined_last (h : ∀ g ∈ groups, g.1.1 ≠ user.1) (own more : List String) :
    (more.map fun role => (user, some role)).foldl (fun groups row => addJoined row groups)
      (groups ++ [(user, own)]) = groups ++ [(user, own ++ more)] := by
  induction more generalizing own with
  | nil => simp
  | cons role more ih =>
    rw [List.map_cons, List.foldl_cons, addJoined_last h, ih]
    simp

end Grouping

/-- The rows of one user beside its roles. -/
def joinedRows (roles : List (String × String)) (user : String × Option String) :
    List ((String × Option String) × Option String) :=
  match rolesFor roles user.1 with
  | [] => [(user, none)]
  | own => own.map fun role => (user, some role)

theorem leftJoin_eq (users : List (String × Option String)) (roles : List (String × String)) :
    leftJoin users roles = users.flatMap (joinedRows roles) := by
  unfold leftJoin
  congr 1
  funext user
  unfold joinedRows rolesFor
  cases roles.filter fun k => k.1 = user.1 with
  | nil => rfl
  | cons k own => simp

/-- The rows of a user make one group, at the end. -/
theorem foldl_addJoined_rows {user : String × Option String}
    {groups : List ((String × Option String) × List String)} (h : ∀ g ∈ groups, g.1.1 ≠ user.1)
    (roles : List (String × String)) :
    (joinedRows roles user).foldl (fun groups row => addJoined row groups) groups =
      groups ++ [(user, rolesFor roles user.1)] := by
  unfold joinedRows
  cases hown : rolesFor roles user.1 with
  | nil => exact addJoined_new h none
  | cons role own =>
    simp only [List.map_cons, List.foldl_cons, addJoined_new h]
    exact foldl_addJoined_last h [role] own

/-- Grouping gives every user once, in the order of the rows, with exactly its roles. -/
theorem grouped_leftJoin {users : List (String × Option String)} (h : (users.map (·.1)).Nodup)
    (roles : List (String × String)) :
    grouped (leftJoin users roles) = users.map fun user => (user, rolesFor roles user.1) := by
  -- the groups so far are of other users, and stay in front
  suffices hfold : ∀ groups, (∀ g ∈ groups, ∀ user ∈ users, g.1.1 ≠ user.1) →
      (users.flatMap (joinedRows roles)).foldl (fun groups row => addJoined row groups) groups =
        groups ++ users.map fun user => (user, rolesFor roles user.1) by
    rw [grouped, leftJoin_eq, hfold [] (by simp), List.nil_append]
  induction users with
  | nil => simp
  | cons user users ih =>
    intro groups hgroups
    obtain ⟨hnew, hrest⟩ := List.nodup_cons.1 h
    rw [List.flatMap_cons, List.foldl_append,
      foldl_addJoined_rows (fun g hg => hgroups g hg user List.mem_cons_self), ih hrest]
    · simp
    · intro g hg user' huser'
      rcases List.mem_append.1 hg with hg | hg
      · exact hgroups g hg user' (List.mem_cons_of_mem _ huser')
      · cases List.mem_singleton.1 hg
        exact fun e => hnew (List.mem_map.2 ⟨user', huser', e.symm⟩)

/-! ## Different roles -/

theorem distinct_ascending (l : List String) : Ascending (distinct l) := KeyTable.keys_ascending _

theorem mem_distinct {l : List String} {s : String} : s ∈ distinct l ↔ s ∈ l := by
  suffices h : ∀ t : KeyTable String Unit,
      s ∈ (l.foldl (fun t s => t.insert s ()) t).keys ↔ s ∈ l ∨ s ∈ t.keys by
    rw [distinct, h]
    simp [KeyTable.empty, KeyTable.keys]
  intro t
  induction l generalizing t with
  | nil => simp
  | cons s' l ih =>
    rw [List.foldl_cons, ih, KeyTable.mem_keys, KeyTable.mem_keys, List.mem_cons]
    simp only [KeyTable.find?_insert]
    by_cases hs : s = s' <;> simp [hs]

end Roster.Relational
