import Roster.Embedded.Operations
import Roster.Proofs.Embedded.Keeping
import Roster.Proofs.Embedded.Runs

/-!
# What is read off the tables

The keys of the index in a role's range lead to the role's holders, and those of all roles stand
together role by role. So one range gives the holders, one pass gives the roles, and the number of
keys is the number of roles held.
-/

namespace Roster.Embedded

open Operation

/-! ## Roles in turn -/

/-- What a key says of a role. -/
def RoleOf (key : Bytes) (role : String) : Prop := ∃ email, splitKey? key = some (role, email)

theorem RoleOf.unique {key : Bytes} {role role' : String} (h : RoleOf key role) (h' : RoleOf key role') :
    role = role' := by
  obtain ⟨email, h⟩ := h
  obtain ⟨email', h'⟩ := h'
  rw [h] at h'
  cases h'
  rfl

/-- Keys come in the order of their roles. -/
theorem RoleOf.le {key key' : Bytes} {role role' : String} (h : RoleOf key role) (h' : RoleOf key' role')
    (hlt : KeyOrder.lt key key' = true) : KeyOrder.lt role' role = false := by
  obtain ⟨email, h⟩ := h
  obtain ⟨email', h'⟩ := h'
  obtain ⟨rfl, hr⟩ := splitKey?_eq_some.1 h
  obtain ⟨rfl, hr'⟩ := splitKey?_eq_some.1 h'
  rw [memberKey_lt hr hr'] at hlt
  exact KeyOrder.fst_le hlt

/-- No key has an earlier role than the last one. -/
def NotBefore (last : Option String) (keys : List Bytes) : Prop :=
  ∀ l, last = some l → ∀ key ∈ keys, ∀ role, RoleOf key role → KeyOrder.lt role l = false

theorem NotBefore.tail {last : Option String} {key : Bytes} {keys : List Bytes}
    (h : NotBefore last (key :: keys)) : NotBefore last keys :=
  fun l hl k hk => h l hl k (List.mem_cons_of_mem _ hk)

/-- No later key has an earlier role than one of ascending keys. -/
theorem RoleOf.notBefore {key : Bytes} {keys : List Bytes} {role : String} (h : RoleOf key role)
    (hkey : ∀ k ∈ keys, KeyOrder.lt key k = true) : NotBefore (some role) keys := by
  intro l hl k hk role' h'
  cases hl
  exact h.le h' (hkey k hk)

/-- Every role of ascending keys gets its turn. Comparing each with the last one is enough, because no
later key has an earlier role. -/
theorem mem_rolesInTurn {last : Option String} {keys : List Bytes} (hkeys : Ascending keys)
    (hlast : NotBefore last keys) (role : String) :
    role ∈ rolesInTurn last keys ↔ last ≠ some role ∧ ∃ key ∈ keys, RoleOf key role := by
  induction keys generalizing last with
  | nil => simp [rolesInTurn]
  | cons key keys ih =>
    obtain ⟨hkey, hkeys⟩ := List.pairwise_cons.1 hkeys
    cases hs : splitKey? key with
    | none =>
      have hnone : ¬ RoleOf key role := fun ⟨email, h⟩ => by rw [hs] at h; cases h
      rw [rolesInTurn, hs]
      simp [ih hkeys hlast.tail, hnone]
    | some p =>
      obtain ⟨first, email⟩ := p
      have hfirst : RoleOf key first := ⟨email, hs⟩
      simp only [rolesInTurn, hs, List.mem_cons, exists_eq_or_imp]
      split
      · -- the role has had its turn already
        rename_i he
        rw [ih hkeys hlast.tail, he]
        refine and_congr_right fun hne => ?_
        exact (or_iff_right fun h => hne (by rw [hfirst.unique h])).symm
      · rename_i he
        rw [List.mem_cons, ih hkeys (hfirst.notBefore hkey)]
        constructor
        · rintro (rfl | ⟨_, k, hk, h⟩)
          · exact ⟨he, .inl hfirst⟩
          · refine ⟨fun hl => he ?_, .inr ⟨k, hk, h⟩⟩
            -- the last role is neither after nor before the first one
            have hle := hlast role hl key List.mem_cons_self first hfirst
            rw [hl, KeyOrder.lt_connected hle (hfirst.le h (hkey k hk))]
        · rintro ⟨hne, h | h⟩
          · exact .inl (h.unique hfirst)
          · by_cases e : role = first
            · exact .inl e
            · exact .inr ⟨fun e' => e (by cases e'; rfl), h⟩

theorem rolesInTurn_ascending {last : Option String} {keys : List Bytes} (hkeys : Ascending keys)
    (hlast : NotBefore last keys) : Ascending (rolesInTurn last keys) := by
  induction keys generalizing last with
  | nil => exact .nil
  | cons key keys ih =>
    obtain ⟨hkey, hkeys⟩ := List.pairwise_cons.1 hkeys
    cases hs : splitKey? key with
    | none =>
      rw [rolesInTurn, hs]
      exact ih hkeys hlast.tail
    | some p =>
      obtain ⟨first, email⟩ := p
      have hfirst : RoleOf key first := ⟨email, hs⟩
      simp only [rolesInTurn, hs]
      split
      · exact ih hkeys hlast.tail
      · have hnext := hfirst.notBefore hkey
        refine List.pairwise_cons.2 ⟨fun role hr => ?_, ih hkeys hnext⟩
        obtain ⟨hne, k, hk, h⟩ := (mem_rolesInTurn hkeys hnext role).1 hr
        cases hlt : KeyOrder.lt first role with
        | true => rfl
        | false => exact absurd (congrArg some (KeyOrder.lt_connected hlt (hnext first rfl k hk role h))) hne

/-! ## Tables that keep a roll -/

variable {t : Tables} {r : Roll} {role : String}

/-- Every record is that of its user. -/
theorem Keeps.forall₂_users (h : Keeps t r.entries) :
    List.Forall₂ (fun row u => Record.decode row.2 = .ok u) t.users.rows r.users := by
  rw [h.users_eq, KeyTable.map, Roll.users, List.forall₂_map_left_iff, List.forall₂_map_right_iff,
    List.forall₂_same]
  exact fun row _ => Record.decode_encode _

theorem isMember_iff {key : Bytes} :
    IsMember r.entries key ↔ ∃ u ∈ r.users, ∃ role ∈ u.roles, key = memberKey role u.email := by
  constructor
  · rintro ⟨email, x, hx, role, hrole, hkey⟩
    exact ⟨x.user email, Roll.mem_users.2 ⟨x, hx, rfl⟩, role, hrole, hkey⟩
  · rintro ⟨u, hu, role, hrole, hkey⟩
    obtain ⟨x, hx, he⟩ := Roll.mem_users.1 hu
    exact ⟨u.email, x, hx, role, by rw [he] at hrole; exact hrole, hkey⟩

theorem hasNul_of_separable (h : Separable r.entries) {u : User} (hu : u ∈ r.users)
    (hrole : role ∈ u.roles) : hasNul role = false := by
  obtain ⟨x, hx, he⟩ := Roll.mem_users.1 hu
  rw [he] at hrole
  exact h u.email x hx role hrole

/-- The keys in the range of a role are those of its holders, in their order. -/
theorem Keeps.keysWithin_eq (h : Keeps t r.entries) (hsep : Separable r.entries)
    (hrole : hasNul role = false) :
    t.index.keysWithin (roleRange role).1 (roleRange role).2 =
      (r.holders role).map fun u => memberKey role u.email := by
  refine Ascending.ext (t.index.keysWithin_ascending _ _) ?_ fun key => ?_
  · have := r.holders_ascending role
    rw [Ascending, List.pairwise_map] at this ⊢
    refine this.imp fun {u v} huv => ?_
    rw [memberKey_lt hrole hrole]
    simpa [KeyOrder.lt] using huv
  rw [KeyTable.mem_keysWithin, h.mem_index, inRange_iff, isMember_iff]
  simp only [List.mem_map, Roll.mem_holders]
  constructor
  · rintro ⟨⟨u, hu, role', hrole', hkey⟩, b, hb⟩
    have hr : role' = role :=
      (prefix_memberKey hrole (hasNul_of_separable hsep hu hrole')).1 ⟨b, by rw [← hkey, hb]; simp⟩
    subst hr
    exact ⟨u, ⟨hu, hrole'⟩, hkey.symm⟩
  · rintro ⟨u, ⟨hu, hm⟩, rfl⟩
    exact ⟨⟨u, hu, role, hm, rfl⟩, utf8 u.email, rfl⟩

/-- The key of a user leads to the user. -/
theorem Keeps.leadsTo (h : Keeps t r.entries) (hrole : hasNul role = false) {u : User} (hu : u ∈ r.users) :
    LeadsTo t (memberKey role u.email) (some u) := by
  obtain ⟨x, hx, he⟩ := Roll.mem_users.1 hu
  have hf : t.users.find? u.email = some (Record.encode u) := by
    rw [h.users, hx, Option.map_some, ← he]
  exact .user (splitKey?_memberKey hrole) hf (Record.decode_encode u)

/-- Nothing has to be reported about the key of a user. -/
theorem Keeps.followReports_eq (h : Keeps t r.entries) (hrole : hasNul role = false) {u : User}
    (hu : u ∈ r.users) : followReports t role (memberKey role u.email) = [] := by
  obtain ⟨x, hx, he⟩ := Roll.mem_users.1 hu
  rw [followReports, splitKey?_memberKey hrole]
  simp [KeyTable.has_eq, h.users, hx]

/-- The roles of the index in turn are the roles held. -/
theorem Keeps.rolesInTurn_eq (h : Keeps t r.entries) (hsep : Separable r.entries) :
    rolesInTurn none t.index.keys = r.rolesHeld := by
  have hnone : NotBefore none t.index.keys := nofun
  refine (rolesInTurn_ascending t.index.keys_ascending hnone).ext (ascendingTexts_ascending _) fun role => ?_
  rw [mem_rolesInTurn t.index.keys_ascending hnone, Roll.rolesHeld, mem_ascendingTexts, List.mem_flatMap]
  simp only [h.mem_index, isMember_iff]
  constructor
  · rintro ⟨_, key, ⟨u, hu, role', hr', rfl⟩, email, hs⟩
    rw [splitKey?_memberKey (hasNul_of_separable hsep hu hr')] at hs
    cases hs
    exact ⟨u, hu, hr'⟩
  · rintro ⟨u, hu, hr⟩
    exact ⟨by simp, memberKey role u.email, ⟨u, hu, role, hr, rfl⟩, u.email,
      splitKey?_memberKey (hasNul_of_separable hsep hu hr)⟩

/-- There are as many keys as roles held. -/
theorem Keeps.length_keys (h : Keeps t r.entries) (hsep : Separable r.entries) :
    t.index.keys.length = r.memberCount := by
  let listed := r.users.flatMap fun u => u.roles.map fun role => memberKey role u.email
  have hnodup : listed.Nodup := by
    refine List.nodup_flatMap.2 ⟨fun u hu => ?_, ?_⟩
    · obtain ⟨x, hx, he⟩ := Roll.mem_users.1 hu
      have hroles : u.roles.Nodup := by rw [he]; exact x.ascending.nodup
      exact hroles.map fun a b hab => memberKey_inj_role.1 hab
    · have hemails := List.pairwise_map.1 r.users_ascending.nodup
      refine hemails.imp_of_mem fun {u v} hu hv hne => ?_
      simp only [Function.onFun, List.disjoint_left, List.mem_map]
      rintro _ ⟨role, hr, rfl⟩ ⟨role', hr', hkey⟩
      exact hne ((memberKey_inj (hasNul_of_separable hsep hv hr') (hasNul_of_separable hsep hu hr)).1 hkey).2.symm
  have hperm : t.index.keys.Perm listed := by
    refine (List.perm_ext_iff_of_nodup t.index.keys_ascending.nodup hnodup).2 fun key => ?_
    rw [h.mem_index, isMember_iff]
    simp [listed, eq_comm]
  rw [hperm.length_eq, Roll.memberCount]
  simp [listed, List.length_flatMap]

end Roster.Embedded
