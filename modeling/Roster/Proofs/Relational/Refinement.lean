import Roster.Proofs.Medium
import Roster.Proofs.Relational.Statements
import Roster.Proofs.Script

/-!
# The relational store shows a roll

While its rows keep the entries of a roll, the relational store answers every request as the roll
does on a relational medium, and its rows keep the entries of the roll afterwards. Three things are
refused that the roll itself would grant: any writing where the database may only be read, and statements
with too many parameters, be it to take roles away or to add them.
-/

namespace Roster.Relational

open Script Operation

/-- The rows hold the entries and nothing else. An empty name is kept as a missing one. -/
structure Keeps (db : Database) (entries : Entries) : Prop where
  asCreated : db.AsCreated
  users (email : String) :
    db.users.find? email = (entries.find? email).map fun x => fullNameColumn (x.user email)
  roles (email role : String) :
    db.roles.has (email, role) = true ↔ ∃ x, entries.find? email = some x ∧ role ∈ x.roles

theorem keeps_new : Keeps .new .empty where
  asCreated := Database.asCreated_new
  users _ := rfl
  roles email role := by
    have hnone : Database.new.roles.has (email, role) = false := rfl
    simp [hnone]

/-- What all callers share shows a roll. -/
structure Shows (shared : Shared) (r : Roll) : Prop where
  isOpen : shared.isOpen = r.isOpen
  keeps : Keeps shared.database r.entries

variable {shared : Shared} {readOnly : Bool} {db : Database} {r r' : Roll} {q : Request} {draft : Draft}

/-- What is left of a request is what the roll says, and what the database was opened for stays. -/
structure Serves (readOnly : Bool) (r : Roll) (q : Request) (o : Outcome (Shared × Draft) StoreError Answer) :
    Prop where
  answer : o.answer = (r.serveOn (.relational readOnly) q).1
  shows : Shows o.state.1 (r.serveOn (.relational readOnly) q).2
  readOnly : o.state.1.readOnly = readOnly

/-! ## Reading rows -/

theorem fullNameColumn_getD (u : User) : (fullNameColumn u).getD "" = u.fullName := by
  unfold fullNameColumn
  split
  · rename_i h
    rw [h, Option.getD_none]
  · rfl

namespace Keeps

theorem rolesFor_eq (h : Keeps db r.entries) {email : String} {x : Profile}
    (hx : r.entries.find? email = some x) : rolesFor db.roles.keys email = x.roles := by
  refine (rolesFor_ascending db.roles.keys_ascending email).ext x.ascending fun role => ?_
  rw [mem_rolesFor, ← KeyTable.has_iff, h.roles, hx]
  simp

theorem users_eq (h : Keeps db r.entries) :
    db.users = r.entries.map fun email x => fullNameColumn (x.user email) :=
  KeyTable.ext_find? fun email => by rw [h.users, KeyTable.find?_map]

/-- The group of a user's rows is the user. -/
theorem toUser_eq (h : Keeps db r.entries) {u : User} (hu : u ∈ r.users) :
    toUser ((u.email, fullNameColumn u), rolesFor db.roles.keys u.email) = u := by
  obtain ⟨x, hx, he⟩ := Roll.mem_users.1 hu
  have hroles : u.roles = x.roles := by rw [he]; rfl
  rw [toUser, fullNameColumn_getD, h.rolesFor_eq hx, sortTexts_of_ascending x.ascending, ← hroles]

/-- Joining, grouping and reading the rows of some users gives these users. -/
theorem users_of_joined (h : Keeps db r.entries) (p : User → Bool)
    {selected : String × Option String → Bool}
    (hp : ∀ u ∈ r.users, selected (u.email, fullNameColumn u) = p u) :
    (grouped (Database.leftJoin (db.users.rows.filter selected) db.roles.keys)).map toUser =
      r.users.filter p := by
  have hrows : db.users.rows = r.users.map fun u => (u.email, fullNameColumn u) := by
    rw [h.users_eq, Roll.users, List.map_map]
    rfl
  have hnodup : ((db.users.rows.filter selected).map (·.1)).Nodup :=
    db.users.keys_ascending.nodup.sublist (List.filter_sublist.map _)
  have hselected : r.users.filter (selected ∘ fun u => (u.email, fullNameColumn u)) = r.users.filter p :=
    List.filter_congr hp
  rw [grouped_leftJoin hnodup, hrows, List.filter_map, List.map_map, List.map_map, hselected]
  refine (List.map_congr_left fun u hu => ?_).trans (List.map_id _)
  exact h.toUser_eq (List.mem_of_mem_filter hu)

/-- The different roles of all rows are the roles held. -/
theorem distinct_eq (h : Keeps db r.entries) :
    Database.distinct (db.roles.keys.map (·.2)) = r.rolesHeld := by
  refine (distinct_ascending _).ext (ascendingTexts_ascending _) fun role => ?_
  simp only [mem_distinct, Roll.rolesHeld, mem_ascendingTexts, List.mem_map, List.mem_flatMap,
    Prod.exists, exists_eq_right, ← KeyTable.has_iff, h.roles]
  constructor
  · rintro ⟨email, x, hx, hrole⟩
    exact ⟨x.user email, Roll.mem_users.2 ⟨x, hx, rfl⟩, hrole⟩
  · rintro ⟨u, hu, hrole⟩
    obtain ⟨x, hx, he⟩ := Roll.mem_users.1 hu
    exact ⟨u.email, x, hx, by rw [he] at hrole; exact hrole⟩

/-- There are as many rows as roles held. -/
theorem length_keys (h : Keeps db r.entries) : db.roles.keys.length = r.memberCount := by
  let listed := r.users.flatMap fun u => u.roles.map fun role => (u.email, role)
  have hnodup : listed.Nodup := by
    refine List.nodup_flatMap.2 ⟨fun u hu => ?_, ?_⟩
    · obtain ⟨x, hx, he⟩ := Roll.mem_users.1 hu
      have hroles : u.roles.Nodup := by rw [he]; exact x.ascending.nodup
      exact hroles.map fun a b hab => congrArg Prod.snd hab
    · refine (List.pairwise_map.1 r.users_ascending.nodup).imp fun {u v} hne => ?_
      simp only [Function.onFun, List.disjoint_left, List.mem_map]
      rintro _ ⟨role, hr, rfl⟩ ⟨role', hr', hk⟩
      exact hne (congrArg Prod.fst hk).symm
  have hperm : db.roles.keys.Perm listed := by
    refine (List.perm_ext_iff_of_nodup db.roles.keys_ascending.nodup hnodup).2 fun k => ?_
    obtain ⟨email, role⟩ := k
    rw [← KeyTable.has_iff, h.roles]
    simp only [listed, List.mem_flatMap, List.mem_map, Prod.mk.injEq]
    constructor
    · rintro ⟨x, hx, hrole⟩
      exact ⟨x.user email, Roll.mem_users.2 ⟨x, hx, rfl⟩, role, hrole, rfl, rfl⟩
    · rintro ⟨u, hu, role, hrole, rfl, rfl⟩
      obtain ⟨x, hx, he⟩ := Roll.mem_users.1 hu
      exact ⟨x, hx, by rw [he] at hrole; exact hrole⟩
  rw [hperm.length_eq, Roll.memberCount]
  simp [listed, List.length_flatMap]

/-- The entries leave no choice: they determine the rows of both tables, and the schema is the one that
is created. -/
theorem unique {db' : Database} {entries : Entries} (h : Keeps db entries) (h' : Keeps db' entries) :
    db = db' := by
  have husers : db.users = db'.users := KeyTable.ext_find? fun email => by rw [h.users, h'.users]
  have hroles : db.roles = db'.roles := by
    refine KeyTable.ext_find? fun key => Option.ext fun _ => ?_
    have hhas : db.roles.has key = db'.roles.has key := by rw [Bool.eq_iff_iff, h.roles, h'.roles]
    rw [KeyTable.has_eq, KeyTable.has_eq] at hhas
    cases hf : db.roles.find? key <;> cases hf' : db'.roles.find? key <;> simp_all
  obtain ⟨hdeclared, hcase, hrefusals⟩ := h.asCreated
  obtain ⟨hdeclared', hcase', hrefusals'⟩ := h'.asCreated
  cases db
  cases db'
  simp_all

end Keeps

/-! ## Parts of operations -/

theorem leads_requireFit (st : Shared × Draft) : Leads serve (requireFit none) st (.ok ()) st := .pure ()

theorem leads_unfit (reason : Unfit) (st : Shared × Draft) :
    Leads serve (requireFit (some reason)) st (.error reason.toError) st := .fail _

theorem leads_connection (hopen : shared.isOpen = true) (name : String) :
    Leads serve (connection name) (shared, draft) (.ok ()) (shared, draft) :=
  .bind (.ask rfl) (by rw [hopen]; exact .pure ())

theorem leads_closed (hclosed : shared.isOpen = false) (name : String) :
    Leads serve (connection name) (shared, draft) (.error .closed) (shared, draft) :=
  .bind (.ask rfl) (by rw [hclosed]; exact .fail _)

section Rows

variable {email : String} {roles : ItemSet String}

theorem sorted_length (roles : ItemSet String) : roles.sorted.length = roles.size := List.length_mergeSort _

theorem isEmpty_false_of_size (h : roles.size ≠ 0) : roles.isEmpty = false := by
  rw [ItemSet.isEmpty, Bool.eq_false_iff, Ne, List.isEmpty_iff]
  exact fun he => h (congrArg List.length he)

theorem leads_insertRoles (hw : shared.readOnly = false) (h : db.AsCreated) (hu : db.users.has email = true)
    (hnew : ∀ role ∈ roles.items, db.roles.has (email, role) = false)
    (hfew : 2 * roles.size ≤ Database.parameterLimit) :
    Leads serve (if roles.isEmpty then pure () else insertRoles email roles) (shared, some db) (.ok ())
      (shared, some { db with roles := withRows db.roles email roles.sorted }) := by
  have hsorted : roles.sorted.Perm roles.items := List.mergeSort_perm ..
  by_cases he : roles.isEmpty
  · have hi : roles.items = [] := List.isEmpty_iff.1 he
    rw [if_pos he, ItemSet.sorted, hi, sortTexts_of_ascending .nil]
    exact .pure ()
  · simp only [he, Bool.false_eq_true, if_false]
    have hinsert := h.insertRoles hu (hsorted.nodup_iff.2 roles.nodup)
      (fun role hr => hnew role (hsorted.mem_iff.1 hr)) (by rwa [sorted_length])
    refine .ask ?_
    simp only [serve, Shared.writing, hw, Bool.false_eq_true, if_false, Option.getD_some, hinsert,
      Option.isSome_some, if_true]

theorem leads_insertRoles_many (hw : shared.readOnly = false)
    (hmany : Database.parameterLimit < 2 * roles.size) :
    Leads serve (if roles.isEmpty then pure () else insertRoles email roles) (shared, some db)
      (.error (storage "add_roles" Database.tooMany)) (shared, some db) := by
  have he : roles.isEmpty = false := isEmpty_false_of_size (by omega)
  have hrefused : db.insertRoles email roles.sorted = .error Database.tooMany :=
    db.insertRoles_many email (by rwa [sorted_length])
  rw [he, if_neg Bool.false_ne_true]
  refine .ask_error ?_
  simp only [serve, Shared.writing, hw, Bool.false_eq_true, if_false, Option.getD_some, hrefused]

theorem leads_deleteRoles (hw : shared.readOnly = false) (h : db.AsCreated)
    (hfew : 1 + roles.size ≤ Database.parameterLimit) :
    Leads serve (if roles.isEmpty then pure () else deleteRoles email roles) (shared, some db) (.ok ())
      (shared, some { db with roles := withoutRows db.roles email roles.sorted }) := by
  by_cases he : roles.isEmpty
  · have hi : roles.items = [] := List.isEmpty_iff.1 he
    have hsame : withoutRows db.roles email [] = db.roles := KeyTable.rows_inj (by simp [withoutRows, KeyTable.filter])
    rw [if_pos he, ItemSet.sorted, hi, sortTexts_of_ascending .nil, hsame]
    exact .pure ()
  · simp only [he, Bool.false_eq_true, if_false]
    rw [← sorted_length] at hfew
    obtain ⟨n, hn⟩ := h.deleteRoles email hfew
    refine .bind (.ask (b := n) ?_) (.report _)
    simp only [serve, Shared.writing, hw, Bool.false_eq_true, if_false, Option.getD_some, hn,
      Option.isSome_some, if_true]

theorem leads_deleteRoles_many (hw : shared.readOnly = false)
    (hmany : Database.parameterLimit < 1 + roles.size) :
    Leads serve (if roles.isEmpty then pure () else deleteRoles email roles) (shared, some db)
      (.error (storage "remove_roles" Database.tooMany)) (shared, some db) := by
  have hlimit : Database.parameterLimit = 32766 := rfl
  have he : roles.isEmpty = false := isEmpty_false_of_size (by omega)
  have hrefused : db.deleteRoles email roles.sorted = .error Database.tooMany :=
    db.deleteRoles_many email (by rwa [sorted_length])
  rw [he, if_neg Bool.false_ne_true]
  refine .error (.ask_error ?_)
  simp only [serve, Shared.writing, hw, Bool.false_eq_true, if_false, Option.getD_some, hrefused]

theorem leads_syncRoles (hw : shared.readOnly = false) (h : db.AsCreated) (hu : db.users.has email = true)
    {previous next : ItemSet String}
    (hp : ∀ role, role ∈ previous.items ↔ db.roles.has (email, role) = true)
    (hfew : Medium.syncing? previous.items next.items = none) :
    Leads serve (syncRoles email previous next) (shared, some db) (.ok ())
      (shared, some { db with roles := syncedRows db.roles email previous next }) := by
  obtain ⟨hremove, hinsert⟩ := Medium.syncing?_eq_none.1 hfew
  unfold syncRoles adjustRoles syncedRows RoleDiff.between
  by_cases hsame : previous.sameAs next
  · simp only [hsame, if_true]
    exact .bind (.pure false) (.report _)
  · simp only [hsame, Bool.false_eq_true, if_false, RoleDiff.apply_eq]
    refine .bind (.bind (a := ()) (.bind (.report _) (.bind (leads_deleteRoles hw h hremove) ?_)) (.pure true)) (.pure ())
    refine leads_insertRoles hw (h.content _ _) hu (fun role hr => ?_) hinsert
    have hnot : ¬ db.roles.has (email, role) = true := fun hh => (ItemSet.mem_difference.1 hr).2 ((hp role).2 hh)
    rw [Bool.eq_false_iff]
    exact fun hh => hnot (has_withoutRows.1 hh).1

/-- Roles are taken away before others are added, and the first statement with too many parameters ends the
operation. -/
theorem leads_syncRoles_many (hw : shared.readOnly = false) (h : db.AsCreated) {previous next : ItemSet String}
    {e : StoreError} (hmany : Medium.syncing? previous.items next.items = some e) :
    ∃ d, Leads serve (syncRoles email previous next) (shared, some db) (.error e) (shared, some d) := by
  have hdiffer : previous.sameAs next = false := by
    rw [Bool.eq_false_iff]
    intro hsame
    rw [Medium.syncing?_of_same (ItemSet.sameAs_iff.1 hsame)] at hmany
    cases hmany
  unfold syncRoles adjustRoles RoleDiff.between
  rw [hdiffer, if_neg Bool.false_ne_true]
  simp only [RoleDiff.apply_eq]
  rcases Medium.syncing?_eq_some.1 hmany with ⟨hremove, rfl⟩ | ⟨hremove, hinsert, rfl⟩
  · exact ⟨db, .error (.error (.bind (.report _) (.error (leads_deleteRoles_many hw hremove))))⟩
  · exact ⟨_, .error (.error (.bind (.report _) (.bind (leads_deleteRoles hw h hremove)
      (leads_insertRoles_many hw hinsert))))⟩

end Rows

/-! ## Mutations -/

/-- The database with a user's row and role rows in place of what it held of that email. -/
def putUser (db : Database) (u : User) (previous : ItemSet String) : Database :=
  { db with
    users := db.users.insert u.email (fullNameColumn u)
    roles := syncedRows db.roles u.email previous u.roleSet }

/-- The database without the rows of an email. -/
def dropUser (db : Database) (email : String) : Database :=
  { db with users := db.users.erase email, roles := db.roles.filter fun k _ => k.1 ≠ email }

/-- The rows keep an entry that was put in place of what they kept. -/
theorem Keeps.put (h : Keeps db r.entries) (u : User) {previous : ItemSet String}
    (hp : ∀ role, role ∈ previous.items ↔ db.roles.has (u.email, role) = true) :
    Keeps (putUser db u.normalized previous) (r.put u).entries where
  asCreated := h.asCreated.content _ _
  users email := by
    rw [putUser, KeyTable.find?_insert, Roll.put, KeyTable.find?_insert, User.normalized_email]
    split
    · rename_i he
      rw [he]
      rfl
    · exact h.users email
  roles email role := by
    rw [putUser, User.normalized_email, has_syncedRows hp, Roll.put, KeyTable.find?_insert]
    by_cases he : email = u.email
    · simp [he]
    · simpa [he] using h.roles email role

/-- The rows keep the other entries once one was dropped. -/
theorem Keeps.drop (h : Keeps db r.entries) (email : String) :
    Keeps (dropUser db email) (r.drop email).entries where
  asCreated := h.asCreated.content _ _
  users email' := by
    rw [dropUser, KeyTable.find?_erase, Roll.drop, KeyTable.find?_erase]
    split
    · rfl
    · exact h.users email'
  roles email' role := by
    rw [dropUser, KeyTable.has_filter, Roll.drop, KeyTable.find?_erase]
    by_cases he : email' = email
    · simp [he]
    · simpa [he] using h.roles email' role

theorem Keeps.has_users (h : Keeps db r.entries) (email : String) :
    db.users.has email = (r.entries.find? email).isSome := by
  rw [KeyTable.has_eq, h.users, Option.isSome_map]

/-- What a script leads to serves a request if the roll says the same. -/
theorem serves_of_leads (shared' : Shared) (draft : Draft) {a : Except StoreError Answer}
    (h : Leads serve (ofRequest q) (shared, none) a (shared', draft))
    (hq : r.serveOn (.relational readOnly) q = (a, r')) (h' : Shows shared' r')
    (hr : shared'.readOnly = readOnly) : Serves readOnly r q ((ofRequest q).run serve (shared, none)) where
  answer := by rw [h.1, hq]
  shows := by rw [h.2, hq]; exact h'
  readOnly := by rw [h.2]; exact hr

theorem leads_done {s : Operation Unit} {st st' : Shared × Draft} {a : Except StoreError Unit}
    (h : Leads serve s st a st') (x : Answer) : Leads serve (do s; return x) st (a.map fun _ => x) st' := by
  cases a with
  | ok _ => exact .bind h (.pure _)
  | error e => exact .error h

/-- A mutation of a fit user begins a transaction. -/
theorem leads_begun {name : String} {s : Operation Unit} {a : Except StoreError Unit} {st : Shared × Draft}
    (h : Leads serve s (⟨true, readOnly, db⟩, some db) a st) :
    Leads serve (do requireFit none; connection name; ask name .begin; s) (⟨true, readOnly, db⟩, none) a st :=
  .bind (leads_requireFit _) <| .bind (leads_connection rfl _) <| .bind (.ask rfl) h

section Mutations

variable (h : Keeps db r.entries) (hopen : r.isOpen = true) {u : User}

include h hopen

/-- Once the row of a user is written, it is for the roles to be brought in step: then all of it is kept, and
if that is refused none of it. -/
theorem Keeps.serves_written (name : String) (event : Log.Event) {previous : ItemSet String}
    (hp : ∀ role, role ∈ previous.items ↔ db.roles.has (u.email, role) = true)
    (hq : r.serveOn (.relational false) q =
      match Medium.syncing? previous.items u.normalized.roleSet.items with
      | none => (.ok .done, r.put u)
      | some e => (.error e, r))
    (hwritten : ∀ {a : Except StoreError Unit} {st : Shared × Draft},
      Leads serve
        (do syncRoles u.email previous u.normalized.roleSet; ask name .commit; Log.Reports.report event)
        (⟨true, false, db⟩,
          some { db with users := db.users.insert u.email (fullNameColumn u.normalized) }) a st →
      Leads serve (ofRequest q) (⟨true, false, db⟩, none) (a.map fun _ => .done) st) :
    Serves false r q ((ofRequest q).run serve (⟨true, false, db⟩, none)) := by
  let db' : Database := { db with users := db.users.insert u.email (fullNameColumn u.normalized) }
  cases hfew : Medium.syncing? previous.items u.normalized.roleSet.items with
  | none =>
    rw [hfew] at hq
    have hsync : Leads serve (syncRoles u.email previous u.normalized.roleSet) (⟨true, false, db⟩, some db')
        (.ok ()) (⟨true, false, db⟩, some (putUser db u.normalized previous)) :=
      leads_syncRoles rfl (h.asCreated.content _ _) (KeyTable.has_insert_self ..) hp hfew
    exact serves_of_leads ⟨true, false, putUser db u.normalized previous⟩ none
      (hwritten (.bind hsync <| .bind (.ask rfl) (.report _))) hq ⟨hopen.symm, h.put u hp⟩ rfl
  | some e =>
    rw [hfew] at hq
    obtain ⟨d, hsync⟩ : ∃ d, Leads serve (syncRoles u.email previous u.normalized.roleSet)
        (⟨true, false, db⟩, some db') (.error e) (⟨true, false, db⟩, some d) :=
      leads_syncRoles_many rfl (h.asCreated.content _ _) hfew
    exact serves_of_leads ⟨true, false, db⟩ (some d) (hwritten (.error hsync)) hq ⟨hopen.symm, h⟩ rfl

theorem Keeps.serves_create (hu : u.unfit? = none) :
    Serves readOnly r (.create u) ((ofRequest (.create u)).run serve (⟨true, readOnly, db⟩, none)) := by
  have hfound : Leads serve (Operation.ask "create_user" (.findUser u.email)) (⟨true, readOnly, db⟩, some db)
      (.ok (db.users.find? u.email)) (⟨true, readOnly, db⟩, some db) :=
    .ask (by simp only [serve, Option.getD_some, h.asCreated.findUser])
  cases hx : r.entries.find? u.email with
  | some x =>
    have hq : r.serveOn (.relational readOnly) (.create u) = (.error .userAlreadyExists, r) :=
      Roll.serveOn_create_there hopen hu (KeyTable.has_iff_exists.2 ⟨x, hx⟩)
    rw [h.users, hx, Option.map_some] at hfound
    refine serves_of_leads ⟨true, readOnly, db⟩ (some db) (.error ?_) hq ⟨hopen.symm, h⟩ rfl
    unfold createUser
    rw [hu]
    exact leads_begun <| .bind hfound (.error (.fail _))
  | none =>
    have hq := Roll.serveOn_create (m := .relational readOnly) hopen hu (KeyTable.has_eq_false_iff.2 hx)
    rw [h.users, hx, Option.map_none] at hfound
    cases readOnly with
    | true =>
      have hinsert : Leads serve (Script.ask insertError (.insertUser u.email (fullNameColumn u.normalized)))
          (⟨true, true, db⟩, some db) (.error (storage "create_user" readOnlyFault)) (⟨true, true, db⟩, some db) :=
        .ask_error (f := readOnlyFault) rfl
      refine serves_of_leads ⟨true, true, db⟩ (some db) (.error ?_) hq ⟨hopen.symm, h⟩ rfl
      unfold createUser
      rw [hu]
      exact leads_begun <| .bind hfound (.error hinsert)
    | false =>
      have hnew : db.users.has u.email = false := by rw [h.has_users, hx, Option.isSome_none]
      have hinsert : serve (.insertUser u.email (fullNameColumn u.normalized)) (⟨true, false, db⟩, some db) =
          (.ok (), (⟨true, false, db⟩,
            some { db with users := db.users.insert u.email (fullNameColumn u.normalized) })) := by
        simp only [serve, Shared.writing, Bool.false_eq_true, if_false, Option.getD_some,
          h.asCreated.insertUser hnew, Option.isSome_some, if_true]
      rw [Medium.creating?, Medium.syncing?_congr .nil u.normalized_perm] at hq
      have hp (role : String) : role ∈ (ItemSet.empty : ItemSet String).items ↔
          db.roles.has (u.email, role) = true := by
        simp [h.roles, hx]
      refine h.serves_written hopen "create_user" (.userCreated .relational u.email u.normalized.roles.length) hp hq
        fun hrest => leads_done ?_ _
      unfold createUser
      rw [hu]
      exact leads_begun <| .bind hfound <| .bind (.ask hinsert) hrest

theorem Keeps.serves_update (hu : u.unfit? = none) :
    Serves readOnly r (.update u) ((ofRequest (.update u)).run serve (⟨true, readOnly, db⟩, none)) := by
  have hset := h.asCreated.setFullName u.email (fullNameColumn u.normalized)
  have hq := Roll.serveOn_update (m := .relational readOnly) hopen hu
  rw [h.has_users] at hset
  cases readOnly with
  | true =>
    refine serves_of_leads ⟨true, true, db⟩ (some db) (.error ?_) hq ⟨hopen.symm, h⟩ rfl
    unfold updateUser
    rw [hu]
    exact leads_begun <| .error (.ask_error rfl)
  | false =>
  cases hx : r.entries.find? u.email with
  | none =>
    rw [hx] at hq hset
    have hstays : serve (.setFullName u.email (fullNameColumn u.normalized)) (⟨true, false, db⟩, some db) =
        (.ok 0, (⟨true, false, db⟩, some db)) := by
      simp [serve, Shared.writing, hset]
    refine serves_of_leads ⟨true, false, db⟩ (some db) (.error ?_) hq ⟨hopen.symm, h⟩ rfl
    unfold updateUser
    rw [hu]
    exact leads_begun <| .bind (.ask hstays) (.error (.fail _))
  | some x =>
    rw [hx] at hq hset
    let db' : Database := { db with users := db.users.insert u.email (fullNameColumn u.normalized) }
    let previous : ItemSet String := .ofList (rolesFor db.roles.keys u.email)
    have hset : serve (.setFullName u.email (fullNameColumn u.normalized)) (⟨true, false, db⟩, some db) =
        (.ok 1, (⟨true, false, db⟩, some db')) := by
      simp [serve, Shared.writing, hset, db']
    have hroles : serve (.rolesOf u.email) (⟨true, false, db⟩, some db') =
        (.ok (rolesFor db.roles.keys u.email), (⟨true, false, db⟩, some db')) := by
      simp only [serve, Option.getD_some]
      rw [(h.asCreated.content _ _ : db'.AsCreated).rolesOf]
    have hp (role : String) : role ∈ previous.items ↔ db.roles.has (u.email, role) = true := by
      rw [ItemSet.mem_ofList, mem_rolesFor, KeyTable.has_iff]
    have hbefore : x.roles.Perm previous.items := by
      refine (List.perm_ext_iff_of_nodup x.ascending.nodup previous.nodup).2 fun role => ?_
      rw [ItemSet.mem_ofList, h.rolesFor_eq hx]
    have hsyncing : (Medium.relational false).updating? (some x.roles) u.normalized.roles =
        Medium.syncing? previous.items u.normalized.roleSet.items :=
      Medium.syncing?_congr hbefore u.normalized_perm
    simp only [Option.map_some, hsyncing] at hq
    refine h.serves_written hopen "update_user" (.userUpdated .relational u.email u.normalized.roles.length) hp hq
      fun hrest => leads_done ?_ _
    unfold updateUser
    rw [hu]
    exact leads_begun <| .bind (.ask hset) <| .bind (.ask hroles) hrest

theorem Keeps.serves_delete {email : String} (he : unfitEmail? email = none) :
    Serves readOnly r (.delete email) ((ofRequest (.delete email)).run serve (⟨true, readOnly, db⟩, none)) := by
  have hdelete := h.asCreated.deleteUser email
  have hq := Roll.serveOn_delete (m := .relational readOnly) hopen he
  rw [h.has_users] at hdelete
  cases readOnly with
  | true =>
    refine serves_of_leads ⟨true, true, db⟩ none (.error ?_) hq ⟨hopen.symm, h⟩ rfl
    unfold deleteUser
    rw [he]
    exact .bind (leads_requireFit _) <| .bind (leads_connection rfl _) <| .error (.ask_error rfl)
  | false =>
  cases hx : r.entries.find? email with
  | none =>
    rw [hx] at hq hdelete
    have hstays : serve (.deleteUser email) (⟨true, false, db⟩, none) = (.ok 0, (⟨true, false, db⟩, none)) := by
      simp [serve, Shared.writing, hdelete]
    refine serves_of_leads ⟨true, false, db⟩ none (.error ?_) hq ⟨hopen.symm, h⟩ rfl
    unfold deleteUser
    rw [he]
    exact .bind (leads_requireFit _) <| .bind (leads_connection rfl _) <| .bind (.ask hstays) (.error (.fail _))
  | some x =>
    rw [hx] at hq hdelete
    have hgoes : serve (.deleteUser email) (⟨true, false, db⟩, none) =
        (.ok 1, (⟨true, false, dropUser db email⟩, none)) := by
      simp [serve, Shared.writing, hdelete, dropUser]
    refine serves_of_leads ⟨true, false, dropUser db email⟩ none (.bind (a := ()) ?_ (.pure _)) hq
      ⟨hopen.symm, h.drop email⟩ rfl
    unfold deleteUser
    rw [he]
    exact .bind (leads_requireFit _) <| .bind (leads_connection rfl _) <| .bind (.ask hgoes) (.report _)

end Mutations

/-! ## Reads -/

section Reads

variable (h : Keeps db r.entries)

include h

/-- A joined read brings the rows of the selected users. -/
theorem Keeps.leads_joined (name : String) (s : Database.Selection) (p : User → Bool)
    (hp : ∀ u ∈ r.users, db.selects s (u.email, fullNameColumn u) = p u) :
    ∃ rows, Leads serve (Operation.ask name (.joined s)) (⟨true, readOnly, db⟩, none) (.ok rows) (⟨true, readOnly, db⟩, none) ∧
      (grouped rows).map toUser = r.users.filter p :=
  ⟨_, .ask (congrArg (·, _) (h.asCreated.joined s)), h.users_of_joined p hp⟩

theorem Keeps.leads_getUsers : Leads serve getUsers (⟨true, readOnly, db⟩, none) (.ok r.users) (⟨true, readOnly, db⟩, none) := by
  obtain ⟨rows, hrows, hgroups⟩ := h.leads_joined "get_users" .everyone (fun _ => true) fun _ _ => rfl
  rw [List.filter_true] at hgroups
  refine .bind (leads_connection rfl _) (.bind hrows ?_)
  rw [hgroups, sortUsers_of_ascending r.users_ascending]
  exact .pure _

theorem Keeps.leads_getUsersByRole {role : String} (hrole : hasNul role = false) :
    Leads serve (getUsersByRole role) (⟨true, readOnly, db⟩, none) (.ok (r.holders role)) (⟨true, readOnly, db⟩, none) := by
  obtain ⟨rows, hrows, hgroups⟩ := h.leads_joined "get_users_by_role" (.role role)
    (fun u => u.roles.contains role) fun u hu => by
      obtain ⟨x, hx, he⟩ := Roll.mem_users.1 hu
      rw [Database.selects, Bool.eq_iff_iff, h.roles, hx, he]
      simp
  unfold getUsersByRole
  rw [hrole]
  refine .bind (leads_connection rfl _) (.bind hrows ?_)
  rw [hgroups, ← Roll.holders, sortUsers_of_ascending (r.holders_ascending role)]
  exact .pure _

theorem Keeps.leads_getUser {email : String} (he : unfitEmail? email = none) :
    Leads serve (getUser email) (⟨true, readOnly, db⟩, none)
      (match r.entries.find? email with
        | some x => .ok (x.user email)
        | none => .error .userNotFound) (⟨true, readOnly, db⟩, none) := by
  obtain ⟨rows, hrows, hgroups⟩ := h.leads_joined "get_user" (.email email) (fun u => u.email = email)
    fun _ _ => rfl
  unfold getUser
  rw [he]
  refine .bind (leads_requireFit _) (.bind (leads_connection rfl _) (.bind hrows ?_))
  rw [Roll.filter_email] at hgroups
  cases hx : r.entries.find? email with
  | none =>
    rw [hx] at hgroups
    rw [List.map_eq_nil_iff.1 hgroups]
    exact .fail _
  | some x =>
    rw [hx] at hgroups
    obtain ⟨group, hrows, hgroup⟩ := List.map_eq_singleton_iff.1 hgroups
    simp only [hrows, hgroup]
    exact .pure _

theorem Keeps.leads_liveRoles :
    Leads serve liveRoles (⟨true, readOnly, db⟩, none) (.ok r.rolesHeld) (⟨true, readOnly, db⟩, none) := by
  refine .bind (leads_connection rfl _) (.ask ?_)
  simp only [serve, Option.getD_none, h.asCreated.liveRoles, h.distinct_eq]

theorem Keeps.leads_memberCount :
    Leads serve memberCount (⟨true, readOnly, db⟩, none) (.ok r.memberCount) (⟨true, readOnly, db⟩, none) := by
  refine .bind (leads_connection rfl _) (.ask ?_)
  simp only [serve, Option.getD_none, h.asCreated.countRoles, h.length_keys]

end Reads

/-! ## Refusals -/

theorem leads_atOnce {a : Except StoreError Answer} (h : Roll.answerAtOnce? q = some a) (st : Shared × Draft) :
    Leads serve (ofRequest q) st a st := by
  cases q with
  | create u =>
    obtain ⟨reason, hu, rfl⟩ := Option.map_eq_some_iff.1 h
    rw [ofRequest, createUser, hu]
    exact .error (.error (leads_unfit reason st))
  | update u =>
    obtain ⟨reason, hu, rfl⟩ := Option.map_eq_some_iff.1 h
    rw [ofRequest, updateUser, hu]
    exact .error (.error (leads_unfit reason st))
  | delete email =>
    obtain ⟨reason, he, rfl⟩ := Option.map_eq_some_iff.1 h
    rw [ofRequest, deleteUser, he]
    exact .error (.error (leads_unfit reason st))
  | user email =>
    obtain ⟨reason, he, rfl⟩ := Option.map_eq_some_iff.1 h
    rw [ofRequest, getUser, he]
    exact .error (.error (leads_unfit reason st))
  | usersByRole role =>
    simp only [Roll.answerAtOnce?] at h
    split at h
    · cases h
      rw [ofRequest, getUsersByRole, if_pos ‹_›]
      exact .bind (.pure _) (.pure _)
    · cases h
  | users | liveRoles | memberCount | close => cases h

theorem leads_refused (h : Roll.answerAtOnce? q = none) (hclosed : shared.isOpen = false) :
    Leads serve (ofRequest q) (shared, draft) (.error .closed) (shared, draft) := by
  cases q with
  | create u =>
    have hu : u.unfit? = none := by simpa [Roll.answerAtOnce?] using h
    rw [ofRequest, createUser, hu]
    exact .error (.bind (leads_requireFit _) (.error (leads_closed hclosed _)))
  | update u =>
    have hu : u.unfit? = none := by simpa [Roll.answerAtOnce?] using h
    rw [ofRequest, updateUser, hu]
    exact .error (.bind (leads_requireFit _) (.error (leads_closed hclosed _)))
  | delete email =>
    have he : unfitEmail? email = none := by simpa [Roll.answerAtOnce?] using h
    rw [ofRequest, deleteUser, he]
    exact .error (.bind (leads_requireFit _) (.error (leads_closed hclosed _)))
  | user email =>
    have he : unfitEmail? email = none := by simpa [Roll.answerAtOnce?] using h
    rw [ofRequest, getUser, he]
    exact .error (.bind (leads_requireFit _) (.error (leads_closed hclosed _)))
  | usersByRole role =>
    have hrole : hasNul role = false := by simpa [Roll.answerAtOnce?] using h
    rw [ofRequest, getUsersByRole, hrole]
    exact .error (.error (leads_closed hclosed _))
  | users | liveRoles | memberCount => exact .error (.error (leads_closed hclosed _))
  | close =>
    obtain ⟨isOpen, readOnly, db⟩ := shared
    cases hclosed
    exact .error (.bind (.ask rfl) (.error (.fail _)))

/-! ## All requests -/

/-- A store that shows a roll serves every request as the roll does on its medium. -/
theorem Shows.serves (h : Shows shared r) (q : Request) :
    Serves shared.readOnly r q ((ofRequest q).run serve (shared, none)) := by
  cases hq : Roll.answerAtOnce? q with
  | some a => exact serves_of_leads shared none (leads_atOnce hq _) (by rw [Roll.serveOn, hq]) h rfl
  | none =>
  obtain ⟨isOpen, readOnly, db⟩ := shared
  have hk := h.keeps
  have hopen := h.isOpen
  cases isOpen with
  | false =>
    exact serves_of_leads ⟨false, readOnly, db⟩ none (leads_refused hq rfl)
      (by rw [Roll.serveOn, hq]; simp [← hopen]) h rfl
  | true =>
  have hserve (hnone : (Medium.relational readOnly).refusal? r q = none) :
      r.serveOn (.relational readOnly) q = r.answer q :=
    (Roll.serveOn_of_none hnone).trans (Roll.serve_eq_answer hq hopen.symm)
  cases q with
  | create u => exact hk.serves_create hopen.symm (by simpa [Roll.answerAtOnce?] using hq)
  | update u => exact hk.serves_update hopen.symm (by simpa [Roll.answerAtOnce?] using hq)
  | delete email => exact hk.serves_delete hopen.symm (by simpa [Roll.answerAtOnce?] using hq)
  | user email =>
    have he : unfitEmail? email = none := by simpa [Roll.answerAtOnce?] using hq
    have hget : Leads serve (getUser email) (⟨true, readOnly, db⟩, none) _ _ := hk.leads_getUser he
    have hanswer := hserve rfl
    rw [Roll.answer] at hanswer
    cases hx : r.entries.find? email with
    | some x =>
      rw [hx] at hanswer hget
      exact serves_of_leads _ _ (.bind hget (.pure _)) hanswer h rfl
    | none =>
      rw [hx] at hanswer hget
      exact serves_of_leads _ _ (.error hget) hanswer h rfl
  | users => exact serves_of_leads _ _ (.bind hk.leads_getUsers (.pure _)) (hserve rfl) h rfl
  | usersByRole role =>
    have hrole : hasNul role = false := by simpa [Roll.answerAtOnce?] using hq
    exact serves_of_leads _ _ (.bind (hk.leads_getUsersByRole hrole) (.pure _)) (hserve rfl) h rfl
  | liveRoles => exact serves_of_leads _ _ (.bind hk.leads_liveRoles (.pure _)) (hserve rfl) h rfl
  | memberCount => exact serves_of_leads _ _ (.bind hk.leads_memberCount (.pure _)) (hserve rfl) h rfl
  | close =>
    exact serves_of_leads ⟨false, readOnly, db⟩ none
      (.bind (a := ()) (.bind (.ask rfl) (.bind (.ask rfl) (.report _))) (.pure _)) (hserve rfl) ⟨rfl, hk⟩ rfl

/-! ## Requests whose callers go away -/

/-- A caller who has to wait has done nothing yet, unless it is to close the store. -/
theorem Store.abandon_shared (s : Store) (q : Request) :
    (s.abandon q).2.1.shared = if q = .close then { s.shared with isOpen := false } else s.shared := by
  obtain ⟨isOpen, readOnly, db⟩ := s
  cases q with
  | create u =>
    rw [if_neg nofun, Store.abandon, ofRequest, createUser]
    cases u.unfit? <;> cases isOpen <;> rfl
  | update u =>
    rw [if_neg nofun, Store.abandon, ofRequest, updateUser]
    cases u.unfit? <;> cases isOpen <;> rfl
  | delete email =>
    rw [if_neg nofun, Store.abandon, ofRequest, deleteUser]
    cases unfitEmail? email <;> cases isOpen <;> rfl
  | user email =>
    rw [if_neg nofun, Store.abandon, ofRequest, getUser]
    cases unfitEmail? email <;> cases isOpen <;> rfl
  | usersByRole role =>
    rw [if_neg nofun, Store.abandon, ofRequest, getUsersByRole]
    cases hasNul role <;> cases isOpen <;> rfl
  | users | liveRoles | memberCount => cases isOpen <;> rfl
  | close => cases isOpen <;> rfl

end Roster.Relational
