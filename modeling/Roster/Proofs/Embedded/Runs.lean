import Roster.Embedded.Store
import Roster.Proofs.Embedded.Index
import Roster.Proofs.Script
import Roster.Proofs.User

/-!
# How the operations run

Each operation played from start to end on arbitrary tables: what it answers, what it leaves, and
what it reports. A mutation that gets as far as its commit either takes effect as a whole or, when
its caller has gone, not at all.
-/

namespace Roster.Embedded.Operation

open Log Script

variable (shared : Shared) (t : Tables) (view : View) (gone handed : Bool)

/-! ## Parts of operations -/

theorem run_ask {β : Type} (name : String) (c : Call β) (st : Shared × Caller) :
    (ask name c).run serve st =
      ⟨match (serve c st).1 with
        | .ok b => .ok b
        | .error f => .error (.storage name f), (serve c st).2, []⟩ := by
  simp only [ask, Script.ask, run]
  cases (serve c st).1 <;> rfl

theorem run_unfit {α : Type} (reason : Unfit) (body : Unit → Operation α) (st : Shared × Caller) :
    (requireFit (some reason) >>= body).run serve st = ⟨.error reason.toError, st, []⟩ := rfl

theorem run_fit {α : Type} (body : Unit → Operation α) (st : Shared × Caller) :
    (requireFit none >>= body).run serve st = (body ()).run serve st := rfl

theorem run_enter (name : String) :
    (enter name).run serve (shared, ⟨view, gone, handed⟩) =
      if shared.isOpen then ⟨.ok (), (shared, ⟨view, gone, true⟩), []⟩
      else ⟨.error .closed, (shared, ⟨view, gone, handed⟩), []⟩ := by
  rw [enter, run_bind, run_ask]
  simp only [serve, andThen_ok_nil]
  split <;> simp [run_ask, serve]

theorem run_decodeUser (email : String) (record : Bytes) (st : Shared × Caller) :
    (decodeUser email record).run serve st =
      ⟨match Record.decode record with
        | .ok u => .ok u
        | .error f => .error (.serialization email (f.message record)), st, []⟩ := by
  unfold decodeUser
  cases Record.decode record <;> rfl

theorem run_addMembers (email : String) (roles : ItemSet String) :
    (addMembers email roles).run serve (shared, ⟨.writing t, gone, handed⟩) =
      ⟨.ok (), (shared, ⟨.writing { t with index := withMembers t.index email roles.items }, gone, handed⟩),
        []⟩ := by
  rw [addMembers, run_bind, run_ask]
  simp only [serve, andThen_ok_nil]
  induction roles.items generalizing t with
  | nil => rfl
  | cons role roles ih =>
    rw [run_forM_cons, run_ask]
    simp only [serve, View.tables, andThen_ok_nil, ih]
    rfl

theorem run_removeMembers (email : String) (roles : ItemSet String) :
    (removeMembers email roles).run serve (shared, ⟨.writing t, gone, handed⟩) =
      ⟨.ok (), (shared, ⟨.writing { t with index := withoutMembers t.index email roles.items }, gone,
        handed⟩), missingReports email t.index roles.items⟩ := by
  rw [removeMembers, run_bind, run_ask]
  simp only [serve, andThen_ok_nil]
  induction roles.items generalizing t with
  | nil => rfl
  | cons role roles ih =>
    rw [run_forM_cons, run_bind, run_ask]
    simp only [serve, View.tables, andThen_ok_nil, missingReports]
    split
    · simp only [run_pure, andThen_ok_nil, ih]
      rfl
    · simp only [run_reported, andThen_ok, ih]
      rfl

theorem run_apply (email : String) (d : RoleDiff) :
    (d.apply (removeMembers email) (addMembers email)).run serve (shared, ⟨.writing t, gone, handed⟩) =
      ⟨.ok (), (shared, ⟨.writing { t with index := patched t.index email d }, gone, handed⟩),
        .applyingDiff d.toRemove.size d.toAdd.size :: missingReports email t.index d.toRemove.items⟩ := by
  have hadd (t : Tables) : (unless d.toAdd.isEmpty do addMembers email d.toAdd : Operation Unit).run serve
      (shared, ⟨.writing t, gone, handed⟩) =
      ⟨.ok (), (shared, ⟨.writing { t with index := withMembers t.index email d.toAdd.items }, gone,
        handed⟩), []⟩ := by
    by_cases he : d.toAdd.isEmpty
    · have hi : d.toAdd.items = [] := List.isEmpty_iff.1 he
      simp [he, hi, withMembers]
    · simp [he, run_addMembers]
  rw [RoleDiff.apply, run_bind, run_reported, andThen_ok]
  by_cases he : d.toRemove.isEmpty
  · have hi : d.toRemove.items = [] := List.isEmpty_iff.1 he
    simp [he, hi, hadd, patched, withoutMembers, missingReports]
  · simp [he, run_bind, run_removeMembers, hadd, patched]

theorem run_syncIndex (email : String) (previous next : ItemSet String) :
    (syncIndex email previous next).run serve (shared, ⟨.writing t, gone, handed⟩) =
      ⟨.ok (), (shared, ⟨.writing { t with index := synced t.index email previous next }, gone, handed⟩),
        syncReports t.index email previous next⟩ := by
  unfold syncIndex adjustRoles synced syncReports
  cases RoleDiff.between previous next with
  | none => simp
  | some d => simp [run_apply]

/-- The commit takes the whole draft or, when the caller has gone, nothing of it. -/
theorem run_commit (name : String) :
    (commit name).run serve (shared, ⟨.writing t, gone, handed⟩) =
      if gone then ⟨.error .cancelled, (shared, ⟨.none, gone, handed⟩), [.callerGone name]⟩
      else ⟨.ok (), ({ shared with tables := t }, ⟨.none, gone, handed⟩), []⟩ := by
  rw [commit, run_bind, run_ask]
  cases gone <;> simp [serve, run, run_ask]

/-- An operation of good form on an open store gets to work. -/
theorem run_entered {shared : Shared} {α β : Type} (hopen : shared.isOpen = true) (name : String)
    (c : Call β) (body : β → Operation α) :
    (do enter name; body (← ask name c) : Operation α).run serve (shared, ⟨view, gone, handed⟩) =
      (do body (← ask name c) : Operation α).run serve (shared, ⟨view, gone, true⟩) := by
  rw [run_bind, run_enter, if_pos hopen, andThen_ok_nil]

/-! ## Mutations -/

/-- What a mutation leaves once it has written the table of users: the index is brought to the next
roles, and the draft committed unless the caller has gone. -/
def finished (users : KeyTable String Bytes) (name email : String) (previous next : ItemSet String)
    (event : Event) : Outcome (Shared × Caller) StoreError Unit :=
  let index := shared.tables.index
  if gone then
    ⟨.error .cancelled, (shared, ⟨.none, gone, true⟩),
      syncReports index email previous next ++ [.callerGone name]⟩
  else
    ⟨.ok (), ({ shared with tables := ⟨users, synced index email previous next⟩ }, ⟨.none, gone, true⟩),
      syncReports index email previous next ++ [event]⟩

theorem run_finish (users : KeyTable String Bytes) (name email : String) (previous next : ItemSet String)
    (event : Event) :
    (do syncIndex email previous next; commit name; Reports.report event : Operation Unit).run serve
        (shared, ⟨.writing ⟨users, shared.tables.index⟩, gone, true⟩) =
      finished shared gone users name email previous next event := by
  rw [run_bind, run_syncIndex, andThen_ok, run_bind, run_commit]
  cases gone <;> simp [finished]

variable {shared} {u : User} {email : String}

theorem run_createUser (hu : u.unfit? = none) (hopen : shared.isOpen = true) :
    (createUser u).run serve (shared, ⟨view, gone, handed⟩) =
      if (shared.tables.users.find? u.email).isSome then
        ⟨.error .userAlreadyExists, (shared, ⟨.writing shared.tables, gone, true⟩), []⟩
      else
        finished shared gone (shared.tables.users.insert u.email (Record.encode u.normalized)) "create_user"
          u.email .empty u.normalized.roleSet
          (.userCreated .embedded u.email u.normalized.roles.length) := by
  rw [← run_finish, createUser, createUserBy, hu, run_fit]
  simp only [run_entered _ _ _ hopen, run_bind _ _ (ask _ _), run_ask, serve, View.tables, andThen_ok_nil,
    User.normalized_email]
  split
  · rfl
  · simp only [run_bind _ _ (ask _ _), run_ask, serve, View.tables, andThen_ok_nil]

theorem run_updateUser (hu : u.unfit? = none) (hopen : shared.isOpen = true) :
    (updateUser u).run serve (shared, ⟨view, gone, handed⟩) =
      match shared.tables.users.find? u.email with
      | none => ⟨.error .userNotFound, (shared, ⟨.writing shared.tables, gone, true⟩), []⟩
      | some record =>
        match Record.decode record with
        | .error f =>
          ⟨.error (.serialization u.email (f.message record)), (shared, ⟨.writing shared.tables, gone, true⟩), []⟩
        | .ok previous =>
          finished shared gone (shared.tables.users.insert u.email (Record.encode u.normalized)) "update_user"
            u.email previous.roleSet u.normalized.roleSet
            (.userUpdated .embedded u.email u.normalized.roles.length) := by
  rw [updateUser, updateUserBy, hu, run_fit]
  simp only [run_entered _ _ _ hopen, run_bind _ _ (ask _ _), run_ask, serve, View.tables, andThen_ok_nil,
    User.normalized_email]
  cases shared.tables.users.find? u.email with
  | none => rfl
  | some record =>
    simp only [run_bind _ _ (decodeUser _ _), run_decodeUser]
    cases Record.decode record with
    | error f => rfl
    | ok previous =>
      simp only [run_bind _ _ (ask _ _), run_ask, serve, View.tables, andThen_ok_nil]
      exact run_finish ..

theorem run_deleteUser (he : unfitEmail? email = none) (hopen : shared.isOpen = true) :
    (deleteUser email).run serve (shared, ⟨view, gone, handed⟩) =
      match shared.tables.users.find? email with
      | none =>
        ⟨.error .userNotFound, (shared, ⟨.writing { shared.tables with
          users := shared.tables.users.erase email }, gone, true⟩), []⟩
      | some record =>
        match Record.decode record with
        | .error f =>
          ⟨.error (.serialization email (f.message record)), (shared, ⟨.writing { shared.tables with
            users := shared.tables.users.erase email }, gone, true⟩), []⟩
        | .ok previous =>
          finished shared gone (shared.tables.users.erase email) "delete_user" email previous.roleSet .empty
            (.userDeleted .embedded email) := by
  rw [deleteUser, deleteUserBy, he, run_fit]
  simp only [run_entered _ _ _ hopen, run_bind _ _ (ask _ _), run_ask, serve, View.tables, andThen_ok_nil]
  cases shared.tables.users.find? email with
  | none => rfl
  | some record =>
    simp only [run_bind _ _ (decodeUser _ _), run_decodeUser]
    cases Record.decode record with
    | error f => rfl
    | ok previous =>
      simp only [andThen_ok_nil]
      exact run_finish ..

/-! ## Reads -/

theorem run_getUser (he : unfitEmail? email = none) (hopen : shared.isOpen = true) :
    (getUser email).run serve (shared, ⟨view, gone, handed⟩) =
      ⟨match shared.tables.users.find? email with
        | none => .error .userNotFound
        | some record =>
          match Record.decode record with
          | .error f => .error (.serialization email (f.message record))
          | .ok u => .ok u, (shared, ⟨.reading shared.tables, gone, true⟩), []⟩ := by
  rw [getUser, he, run_fit]
  simp only [run_entered _ _ _ hopen, run_bind _ _ (ask _ _), run_ask, serve, View.tables, andThen_ok_nil]
  cases shared.tables.users.find? email with
  | none => rfl
  | some record =>
    simp only [run_decodeUser]
    cases Record.decode record <;> rfl

/-- All users are read when every record decodes. -/
theorem run_getUsers (hopen : shared.isOpen = true) {users : List User}
    (h : List.Forall₂ (fun row u => Record.decode row.2 = .ok u) shared.tables.users.rows users) :
    getUsers.run serve (shared, ⟨view, gone, handed⟩) =
      ⟨.ok (sortUsers users), (shared, ⟨.reading shared.tables, gone, true⟩), []⟩ := by
  have hrows (st : Shared × Caller) : (shared.tables.users.rows.mapM fun row => decodeUser row.1 row.2).run serve st =
      ⟨.ok users, st, []⟩ := by
    rw [run_mapM serve st (fun _ => []) (h.imp fun row u hu => by rw [run_decodeUser, hu])]
    simp
  rw [getUsers]
  simp only [run_entered _ _ _ hopen, run_bind _ _ (ask _ _), run_ask, serve, View.tables, andThen_ok_nil]
  rw [run_bind, hrows]
  rfl

/-- Where a key of the index leads: to the user of a record, or nowhere when the key does not split or
nobody has its email. -/
inductive LeadsTo (t : Tables) (key : Bytes) : Option User → Prop where
  | undecodable (hs : splitKey? key = none) : LeadsTo t key none
  | dangling {role email : String} (hs : splitKey? key = some (role, email))
      (hf : t.users.find? email = none) : LeadsTo t key none
  | user {role email : String} {record : Bytes} {u : User} (hs : splitKey? key = some (role, email))
      (hf : t.users.find? email = some record) (hd : Record.decode record = .ok u) : LeadsTo t key (some u)

/-- What is reported about a key of the index on the way to its user. -/
def followReports (t : Tables) (role : String) (key : Bytes) : List Event :=
  match splitKey? key with
  | none => [.undecodableKey role]
  | some (_, email) => if t.users.has email then [] else [.danglingEntry role email]

theorem run_followMember (role : String) {key : Bytes} {u : Option User} (h : LeadsTo t key u) :
    (followMember role key).run serve (shared, ⟨.reading t, gone, handed⟩) =
      ⟨.ok u, (shared, ⟨.reading t, gone, handed⟩), followReports t role key⟩ := by
  unfold followMember followReports
  cases h with
  | undecodable hs =>
    rw [hs]
    rfl
  | dangling hs hf =>
    simp only [hs, run_bind _ _ (ask _ _), run_ask, serve, View.tables, andThen_ok_nil, KeyTable.has_eq, hf]
    rfl
  | user hs hf hd =>
    simp only [hs, run_bind _ _ (ask _ _), run_ask, serve, View.tables, andThen_ok_nil, KeyTable.has_eq, hf]
    rw [run_bind, run_decodeUser, hd]
    rfl

/-- On an open store, to look a role up is to follow the keys in its range. -/
theorem run_followMembers (hopen : shared.isOpen = true) {role : String} (hrole : hasNul role = false) :
    (getUsersByRole role).run serve (shared, ⟨view, gone, handed⟩) =
      (do return sortUsers ((← (shared.tables.index.keysWithin (roleRange role).1 (roleRange role).2).mapM
        (followMember role)).filterMap id) : Operation (List User)).run serve
          (shared, ⟨.reading shared.tables, gone, true⟩) := by
  rw [getUsersByRole, hrole]
  simp only [Bool.false_eq_true, if_false, run_entered _ _ _ hopen, run_bind _ _ (ask _ _), run_ask, serve, View.tables,
    andThen_ok_nil]

/-- The holders of a role are read when every record that its keys lead to decodes. -/
theorem run_getUsersByRole (hopen : shared.isOpen = true) {role : String} (hrole : hasNul role = false)
    {keys : List Bytes} {users : List (Option User)}
    (hkeys : shared.tables.index.keysWithin (roleRange role).1 (roleRange role).2 = keys)
    (h : List.Forall₂ (LeadsTo shared.tables) keys users) :
    (getUsersByRole role).run serve (shared, ⟨view, gone, handed⟩) =
      ⟨.ok (sortUsers (users.filterMap id)), (shared, ⟨.reading shared.tables, gone, true⟩),
        keys.flatMap (followReports shared.tables role)⟩ := by
  rw [run_followMembers _ _ _ hopen hrole, hkeys, run_bind,
    run_mapM serve _ _ (h.imp fun key u hu => run_followMember _ _ _ role hu)]
  simp

theorem run_liveRoles (hopen : shared.isOpen = true) :
    liveRoles.run serve (shared, ⟨view, gone, handed⟩) =
      ⟨.ok (rolesInTurn none shared.tables.index.keys), (shared, ⟨.reading shared.tables, gone, true⟩), []⟩ := by
  rw [liveRoles]
  simp only [run_entered _ _ _ hopen, run_bind _ _ (ask _ _), run_ask, serve, View.tables, andThen_ok_nil, run_pure]

theorem run_memberCount (hopen : shared.isOpen = true) :
    memberCount.run serve (shared, ⟨view, gone, handed⟩) =
      ⟨.ok shared.tables.index.keys.length, (shared, ⟨.reading shared.tables, gone, true⟩), []⟩ := by
  rw [memberCount]
  simp only [run_entered _ _ _ hopen, run_bind _ _ (ask _ _), run_ask, serve, View.tables, andThen_ok_nil, run_pure]

end Roster.Embedded.Operation
