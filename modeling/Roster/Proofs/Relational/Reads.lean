import Mathlib.Data.List.Induction
import Roster.Proofs.Relational.Statements
import Roster.Proofs.Script

/-!
# Reads fold joined rows into users

A joined read brings every selected user beside each of its roles, and the rows may come in any order,
those of one user not even next to each other. Folding them gives each user once, with all of its roles
and nobody else's. So what the reads answer is told by the rows of the two tables alone.
-/

namespace Roster.Relational

open Script Operation

/-- A row of a join: the row of a user, beside one of its roles or beside none. -/
abbrev JoinedRow := (String × Option String) × Option String

/-! ## Grouping rows in any order -/

/-- The roles that joined rows bring for an email, in their order. -/
def rolesIn (rows : List JoinedRow) (email : String) : List String :=
  (rows.filter fun row => row.1.1 = email).flatMap fun row => row.2.toList

theorem rolesIn_concat (rows : List JoinedRow) (row : JoinedRow) (email : String) :
    rolesIn (rows ++ [row]) email = rolesIn rows email ++ if row.1.1 = email then row.2.toList else [] := by
  by_cases h : row.1.1 = email <;> simp [rolesIn, h]

theorem rolesIn_perm {rows rows' : List JoinedRow} (h : rows.Perm rows') (email : String) :
    (rolesIn rows email).Perm (rolesIn rows' email) := (h.filter _).flatMap_right _

/-- The groups are those of the rows: one for each email, which has all roles of that email. -/
structure Groups (rows : List JoinedRow) (groups : List ((String × Option String) × List String)) : Prop where
  nodup : (groups.map (·.1.1)).Nodup
  ofRow : ∀ row ∈ rows, ∃ g ∈ groups, g.1.1 = row.1.1
  rowOf : ∀ g ∈ groups, ∃ row ∈ rows, row.1 = g.1
  roles : ∀ g ∈ groups, g.2 = rolesIn rows g.1.1

/-- A row of a user that has a group adds to that group, wherever it stands. -/
theorem addJoined_known {row : JoinedRow} {groups : List ((String × Option String) × List String)}
    (hnodup : (groups.map (·.1.1)).Nodup) (h : ∃ g ∈ groups, g.1.1 = row.1.1) :
    addJoined row groups =
      groups.map fun g => (g.1, g.2 ++ if row.1.1 = g.1.1 then row.2.toList else []) := by
  induction groups with
  | nil => obtain ⟨g, hg, -⟩ := h; cases hg
  | cons g groups ih =>
    obtain ⟨hnew, hrest⟩ := List.nodup_cons.1 hnodup
    by_cases hg : g.1.1 = row.1.1
    · -- the groups behind it are of other users
      have hothers : ∀ g' ∈ groups, (g'.1, g'.2 ++ if row.1.1 = g'.1.1 then row.2.toList else []) = g' := by
        intro g' hg'
        rw [if_neg fun he => hnew (List.mem_map.2 ⟨g', hg', (hg.trans he).symm⟩), List.append_nil]
      rw [addJoined, if_pos hg, List.map_cons, if_pos hg.symm, List.map_congr_left hothers, List.map_id']
    · obtain ⟨g', hg', he⟩ := h
      rcases List.mem_cons.1 hg' with rfl | hg'
      · exact absurd he hg
      · rw [addJoined, if_neg hg, List.map_cons, if_neg (Ne.symm hg), List.append_nil,
          ih hrest ⟨g', hg', he⟩]

namespace Groups

variable {rows rows' : List JoinedRow} {groups groups' : List ((String × Option String) × List String)}

theorem known (h : Groups rows groups) {row : JoinedRow} (hknown : ∃ g ∈ groups, g.1.1 = row.1.1) :
    Groups (rows ++ [row]) (addJoined row groups) := by
  rw [addJoined_known h.nodup hknown]
  refine ⟨?_, fun row' hrow' => ?_, fun g' hg' => ?_, fun g' hg' => ?_⟩
  · rw [List.map_map]
    exact h.nodup
  · have hgroup : ∃ g ∈ groups, g.1.1 = row'.1.1 := by
      rcases List.mem_append.1 hrow' with hrow' | hrow'
      · exact h.ofRow row' hrow'
      · rw [List.mem_singleton.1 hrow']
        exact hknown
    obtain ⟨g, hg, he⟩ := hgroup
    exact ⟨_, List.mem_map_of_mem hg, he⟩
  · obtain ⟨g, hg, rfl⟩ := List.mem_map.1 hg'
    obtain ⟨row', hrow', he⟩ := h.rowOf g hg
    exact ⟨row', List.mem_append_left _ hrow', he⟩
  · obtain ⟨g, hg, rfl⟩ := List.mem_map.1 hg'
    rw [rolesIn_concat, ← h.roles g hg]

theorem new (h : Groups rows groups) {row : JoinedRow} (hnew : ∀ g ∈ groups, g.1.1 ≠ row.1.1) :
    Groups (rows ++ [row]) (addJoined row groups) := by
  have hnone : rolesIn rows row.1.1 = [] := by
    rw [rolesIn, List.filter_eq_nil_iff.2, List.flatMap_nil]
    intro row' hrow' he
    obtain ⟨g, hg, hge⟩ := h.ofRow row' hrow'
    exact hnew g hg (hge.trans (of_decide_eq_true he))
  rw [show row = (row.1, row.2) from rfl, addJoined_new hnew]
  refine ⟨?_, fun row' hrow' => ?_, fun g hg => ?_, fun g hg => ?_⟩
  · rw [List.map_append, List.nodup_append]
    refine ⟨h.nodup, List.nodup_singleton _, fun email he email' he' => ?_⟩
    obtain ⟨g, hg, rfl⟩ := List.mem_map.1 he
    rw [List.mem_singleton.1 he']
    exact hnew g hg
  · rcases List.mem_append.1 hrow' with hrow' | hrow'
    · obtain ⟨g, hg, he⟩ := h.ofRow row' hrow'
      exact ⟨g, List.mem_append_left _ hg, he⟩
    · rw [List.mem_singleton.1 hrow']
      exact ⟨_, List.mem_append_right _ (List.mem_singleton_self _), rfl⟩
  · rcases List.mem_append.1 hg with hg | hg
    · obtain ⟨row', hrow', he⟩ := h.rowOf g hg
      exact ⟨row', List.mem_append_left _ hrow', he⟩
    · rw [List.mem_singleton.1 hg]
      exact ⟨row, List.mem_append_right _ (List.mem_singleton_self _), rfl⟩
  · rw [rolesIn_concat]
    rcases List.mem_append.1 hg with hg | hg
    · rw [if_neg (Ne.symm (hnew g hg)), List.append_nil, h.roles g hg]
    · rw [List.mem_singleton.1 hg, if_pos rfl, hnone, List.nil_append]

/-- One more row begins a group or adds to the one of its user. -/
theorem concat (h : Groups rows groups) (row : JoinedRow) : Groups (rows ++ [row]) (addJoined row groups) := by
  by_cases hknown : ∃ g ∈ groups, g.1.1 = row.1.1
  · exact h.known hknown
  · exact h.new fun g hg he => hknown ⟨g, hg, he⟩

end Groups

theorem groups_grouped (rows : List JoinedRow) : Groups rows (grouped rows) := by
  induction rows using List.reverseRecOn with
  | nil => exact ⟨List.nodup_nil, nofun, nofun, nofun⟩
  | append_singleton rows row ih =>
    rw [grouped, List.foldl_concat]
    exact ih.concat row

/-- The user that a row and the role rows of its email tell. -/
def userOf (roles : List (String × String)) (row : String × Option String) : User :=
  ⟨row.1, row.2.getD "", rolesFor roles row.1⟩

theorem fst_mem_of_leftJoin {users : List (String × Option String)} {roles : List (String × String)}
    {row : JoinedRow} (h : row ∈ Database.leftJoin users roles) : row.1 ∈ users := by
  rw [leftJoin_eq] at h
  obtain ⟨user, huser, hrow⟩ := List.mem_flatMap.1 h
  unfold joinedRows at hrow
  split at hrow
  · rw [List.mem_singleton.1 hrow]
    exact huser
  · obtain ⟨role, -, rfl⟩ := List.mem_map.1 hrow
    exact huser

/-- Whatever order the rows of a join come in, their groups are the users of the joined rows. -/
theorem users_of_grouped {users : List (String × Option String)} {roles : List (String × String)}
    {rows : List JoinedRow} (husers : (users.map (·.1)).Nodup) (hroles : Ascending roles)
    (hrows : rows.Perm (Database.leftJoin users roles)) :
    ((grouped rows).map toUser).Perm (users.map (userOf roles)) := by
  have h := groups_grouped rows
  have h' := groups_grouped (Database.leftJoin users roles)
  rw [grouped_leftJoin husers] at h'
  have huser : ∀ g ∈ grouped rows, g.1 ∈ users ∧ toUser g = userOf roles g.1 := by
    intro g hg
    have hmem : g.1 ∈ users := by
      obtain ⟨row, hrow, he⟩ := h.rowOf g hg
      rw [← he]
      exact fst_mem_of_leftJoin (hrows.mem_iff.1 hrow)
    refine ⟨hmem, ?_⟩
    have hjoined : rolesFor roles g.1.1 = rolesIn (Database.leftJoin users roles) g.1.1 :=
      h'.roles _ (List.mem_map_of_mem hmem)
    have hperm : g.2.Perm (rolesFor roles g.1.1) := by
      rw [h.roles g hg, hjoined]
      exact rolesIn_perm hrows _
    rw [toUser, sortTexts_of_perm hperm (rolesFor_ascending hroles _), userOf]
  refine (List.perm_ext_iff_of_nodup ?_ ?_).2 fun u => ?_
  · refine List.Nodup.of_map (·.email) ?_
    rw [List.map_map]
    exact h.nodup
  · refine List.Nodup.of_map (·.email) ?_
    rw [List.map_map]
    exact husers
  · constructor
    · intro hu
      obtain ⟨g, hg, rfl⟩ := List.mem_map.1 hu
      rw [(huser g hg).2]
      exact List.mem_map_of_mem (huser g hg).1
    · intro hu
      obtain ⟨user, hmem, rfl⟩ := List.mem_map.1 hu
      obtain ⟨row, hrow, he⟩ := h'.rowOf _ (List.mem_map_of_mem hmem)
      obtain ⟨g, hg, hge⟩ := h.ofRow row (hrows.mem_iff.2 hrow)
      have hsame : g.1 = user :=
        List.inj_on_of_nodup_map husers (huser g hg).1 hmem (hge.trans (congrArg Prod.fst he))
      rw [← hsame, ← (huser g hg).2]
      exact List.mem_map_of_mem hg

/-! ## What the rows tell -/

namespace Database

variable {db : Database} {u v : User}

/-- The user is what the rows of its email say: it has the name of its row, where a missing one is empty,
and the roles of its role rows, in ascending order. -/
structure Tells (db : Database) (u : User) : Prop where
  name : ∃ fullName, db.users.find? u.email = some fullName ∧ u.fullName = fullName.getD ""
  roles : ∀ role, role ∈ u.roles ↔ db.roles.has (u.email, role) = true
  ascending : Ascending u.roles

/-- The rows tell one user of each email. -/
theorem Tells.unique (hu : db.Tells u) (hv : db.Tells v) (he : u.email = v.email) : u = v := by
  obtain ⟨name, hname, huname⟩ := hu.name
  obtain ⟨name', hname', hvname⟩ := hv.name
  rw [he, hname', Option.some.injEq] at hname
  have hroles : u.roles = v.roles :=
    hu.ascending.ext hv.ascending fun role => by rw [hu.roles, hv.roles, he]
  cases u
  cases v
  simp_all

theorem tells_iff : db.Tells u ↔ ∃ row ∈ db.users.rows, userOf db.roles.keys row = u := by
  constructor
  · intro h
    obtain ⟨name, hname, he⟩ := h.name
    refine ⟨(u.email, name), KeyTable.find?_eq_some.1 hname, ?_⟩
    have hroles : rolesFor db.roles.keys u.email = u.roles :=
      (rolesFor_ascending db.roles.keys_ascending _).ext h.ascending fun role => by
        rw [mem_rolesFor, h.roles, KeyTable.has_iff]
    rw [userOf, hroles, ← he]
  · rintro ⟨row, hrow, rfl⟩
    refine ⟨⟨row.2, KeyTable.find?_eq_some.2 hrow, rfl⟩, fun role => ?_, ?_⟩
    · rw [userOf, mem_rolesFor, KeyTable.has_iff]
    · exact rolesFor_ascending db.roles.keys_ascending _

/-- The users of the rows that a joined read selects, by email. -/
def usersOf (db : Database) (s : Selection) : List User :=
  (db.users.rows.filter (db.selects s)).map (userOf db.roles.keys)

theorem usersOf_ascending (db : Database) (s : Selection) : Ascending ((db.usersOf s).map (·.email)) := by
  have hkeys : (db.usersOf s).map (·.email) = (db.users.rows.filter (db.selects s)).map (·.1) := by
    rw [usersOf, List.map_map]
    rfl
  rw [hkeys]
  exact db.users.keys_ascending.sublist (List.filter_sublist.map _)

/-- Selected are users whom the rows tell, by nothing but their email. -/
theorem mem_usersOf {s : Selection} : u ∈ db.usersOf s ↔ db.Tells u ∧ db.selects s (u.email, none) = true := by
  have hemail (row : String × Option String) : db.selects s row = db.selects s (row.1, none) := by
    cases s <;> rfl
  rw [usersOf, List.mem_map, tells_iff]
  constructor
  · rintro ⟨row, hrow, rfl⟩
    obtain ⟨hrow, hselected⟩ := List.mem_filter.1 hrow
    exact ⟨⟨row, hrow, rfl⟩, by rw [← hselected, hemail row]; rfl⟩
  · rintro ⟨⟨row, hrow, rfl⟩, hselected⟩
    exact ⟨row, List.mem_filter.2 ⟨hrow, by rw [hemail row]; exact hselected⟩, rfl⟩

theorem map_email_usersOf_everyone (db : Database) : (db.usersOf .everyone).map (·.email) = db.users.keys := by
  have hall : db.users.rows.filter (db.selects .everyone) = db.users.rows := List.filter_true _
  rw [usersOf, hall, List.map_map]
  rfl

/-- The tables have the columns that the schema gives them. -/
structure Columns (db : Database) : Prop where
  users : ∃ t, db.table? "users" = some t ∧ t.hasColumn "email" = true ∧ t.hasColumn "full_name" = true
  roles : ∃ t, db.table? "roles" = some t ∧ t.hasColumn "email" = true ∧ t.hasColumn "role" = true

theorem AsCreated.columns (h : db.AsCreated) : db.Columns :=
  ⟨⟨usersTable, h.table_users, by decide⟩, ⟨rolesTable, h.table_roles, by decide⟩⟩

theorem Columns.joined (h : db.Columns) (s : Selection) :
    db.joined s = .ok (leftJoin (db.users.rows.filter (db.selects s)) db.roles.keys) := by
  obtain ⟨t, htable, hcolumns⟩ := h.users
  obtain ⟨t', htable', hcolumns'⟩ := h.roles
  have husers : db.naming "users" ["email", "full_name"] = .ok t := by simp [naming, htable, hcolumns]
  have hroles : db.naming "roles" ["email", "role"] = .ok t' := by simp [naming, htable', hcolumns']
  rw [Database.joined, husers, hroles]
  rfl

end Database

/-! ## Reading with rows in any order -/

/-- Serves calls like the engine does, with the rows of joined reads in another order. -/
def serveIn (order : List JoinedRow → List JoinedRow) {β : Type} (c : Call β) (st : Shared × Draft) :
    Except DbFault β × (Shared × Draft) :=
  match c with
  | .joined s => ((serve (.joined s) st).1.map order, st)
  | c => serve c st

theorem serveIn_id : @serveIn id = @serve := by
  funext β c st
  cases c with
  | joined s =>
    rw [serveIn, Except.map_id]
    rfl
  | _ => rfl

/-- What a store answers when the rows of joined reads come in some order. -/
def Store.answerIn (s : Store) (order : List JoinedRow → List JoinedRow) (q : Request) :
    Except StoreError Answer := ((ofRequest q).run (serveIn order) (s.shared, none)).answer

theorem Store.answerIn_id (s : Store) (q : Request) : s.answerIn id q = (s.perform q).answer := by
  rw [Store.answerIn, serveIn_id]
  rfl

/-- An email that nobody can have is refused before the rows are looked at. -/
theorem answerIn_unfit {order : List JoinedRow → List JoinedRow} (s : Store) {email : String} {reason : Unfit}
    (he : unfitEmail? email = some reason) :
    s.answerIn order (.user email) = .error reason.toError := by
  rw [Store.answerIn, ofRequest, getUser, he]
  rfl

theorem answerIn_nul {order : List JoinedRow → List JoinedRow} (s : Store) {role : String}
    (hrole : hasNul role = true) :
    s.answerIn order (.usersByRole role) = .ok (.users []) := by
  rw [Store.answerIn, ofRequest, getUsersByRole, hrole]
  rfl

section Reading

variable {readOnly : Bool} {db : Database} {order : List JoinedRow → List JoinedRow} {email role : String}
  (horder : ∀ rows, (order rows).Perm rows)

include horder

/-- A joined read brings rows of the selected users, from which these can be put together. -/
theorem leads_joined (h : db.Columns) (name : String) (s : Database.Selection) :
    ∃ rows, Leads (serveIn order) (Operation.ask name (.joined s)) (⟨true, readOnly, db⟩, none) (.ok rows) (⟨true, readOnly, db⟩, none) ∧
      ((grouped rows).map toUser).Perm (db.usersOf s) := by
  refine ⟨_, .ask (congrArg (fun r => (r.map order, _)) (h.joined s)), ?_⟩
  exact users_of_grouped (db.users.keys_ascending.nodup.sublist (List.filter_sublist.map _))
    db.roles.keys_ascending (horder _)

variable (h : db.Columns)

include h

theorem leads_getUsers :
    Leads (serveIn order) getUsers (⟨true, readOnly, db⟩, none) (.ok (db.usersOf .everyone)) (⟨true, readOnly, db⟩, none) := by
  obtain ⟨rows, hrows, hperm⟩ := leads_joined horder h "get_users" .everyone
  refine .bind (.bind (.ask rfl) (.pure ())) (.bind hrows ?_)
  rw [sortUsers_of_perm hperm (db.usersOf_ascending _)]
  exact .pure _

theorem leads_getUsersByRole (hrole : hasNul role = false) :
    Leads (serveIn order) (getUsersByRole role) (⟨true, readOnly, db⟩, none) (.ok (db.usersOf (.role role)))
      (⟨true, readOnly, db⟩, none) := by
  obtain ⟨rows, hrows, hperm⟩ := leads_joined horder h "get_users_by_role" (.role role)
  unfold getUsersByRole
  rw [hrole]
  refine .bind (.bind (.ask rfl) (.pure ())) (.bind hrows ?_)
  rw [sortUsers_of_perm hperm (db.usersOf_ascending _)]
  exact .pure _

/-- At most one user has the email, so the first that is found is the one. -/
theorem leads_getUser (he : unfitEmail? email = none) :
    Leads (serveIn order) (getUser email) (⟨true, readOnly, db⟩, none)
      (match (db.usersOf (.email email)).head? with
        | some u => .ok u
        | none => .error .userNotFound) (⟨true, readOnly, db⟩, none) := by
  obtain ⟨rows, hrows, hperm⟩ := leads_joined horder h "get_user" (.email email)
  unfold getUser
  rw [he]
  refine .bind (.pure ()) (.bind (.bind (.ask rfl) (.pure ())) (.bind hrows ?_))
  cases hgroups : grouped rows with
  | nil =>
    rw [hgroups] at hperm
    rw [List.nil_perm.1 hperm]
    exact .fail _
  | cons group groups =>
    rw [hgroups] at hperm
    have hmem : toUser group ∈ db.usersOf (.email email) := hperm.mem_iff.1 List.mem_cons_self
    cases husers : db.usersOf (.email email) with
    | nil => rw [husers] at hmem; cases hmem
    | cons u users =>
      have hhead : u ∈ db.usersOf (.email email) := husers ▸ List.mem_cons_self
      obtain ⟨hgroup, heg⟩ := Database.mem_usersOf.1 hmem
      obtain ⟨hu, heu⟩ := Database.mem_usersOf.1 hhead
      have hsame : toUser group = u := hgroup.unique hu
        ((of_decide_eq_true heg).trans (of_decide_eq_true heu).symm)
      exact hsame ▸ .pure _

/-! ## The answers -/

theorem answerIn_users :
    (Store.mk ⟨true, readOnly, db⟩).answerIn order .users = .ok (.users (db.usersOf .everyone)) :=
  ((leads_getUsers horder h).bind (f := fun users => pure (Answer.users users)) (.pure _)).1

theorem answerIn_user (he : unfitEmail? email = none) :
    (Store.mk ⟨true, readOnly, db⟩).answerIn order (.user email) =
      match (db.usersOf (.email email)).head? with
      | some u => .ok (.user u)
      | none => .error .userNotFound := by
  have hget : Leads (serveIn order) (getUser email) (⟨true, readOnly, db⟩, none) _ _ := leads_getUser horder h he
  cases hu : (db.usersOf (.email email)).head? with
  | some u =>
    rw [hu] at hget
    exact (hget.bind (f := fun u => pure (Answer.user u)) (.pure _)).1
  | none =>
    rw [hu] at hget
    exact (hget.error (f := fun u => pure (Answer.user u))).1

theorem answerIn_usersByRole (hrole : hasNul role = false) :
    (Store.mk ⟨true, readOnly, db⟩).answerIn order (.usersByRole role) = .ok (.users (db.usersOf (.role role))) :=
  ((leads_getUsersByRole horder h hrole).bind (f := fun users => pure (Answer.users users)) (.pure _)).1

end Reading

/-- On an open store, whatever order the rows of joined reads come in (that of the engine is the case of the
first statement), the reads of users tell the rows of the two tables. All users are one for each row of the
table of users, by email. An email gives its user, or none if it has no row. A role gives the users that have
it, each with all of its roles. But an email that nobody may have is refused, and a role with NUL is nobody's,
without a look at the rows. -/
theorem reads_tell_rows {s : Store} (hopen : s.shared.isOpen = true) (hcolumns : s.shared.database.Columns) :
    (∀ q, (s.perform q).answer = s.answerIn id q) ∧
      ∀ order : List JoinedRow → List JoinedRow, (∀ rows, (order rows).Perm rows) →
        (∃ users, s.answerIn order .users = .ok (.users users) ∧
          users.map (·.email) = s.shared.database.users.keys ∧ Ascending (users.map (·.email)) ∧
          ∀ u, u ∈ users ↔ s.shared.database.Tells u) ∧
        (∀ email, unfitEmail? email = none →
          (∃ u, s.shared.database.Tells u ∧ u.email = email ∧ s.answerIn order (.user email) = .ok (.user u)) ∨
            (s.shared.database.users.has email = false ∧
              s.answerIn order (.user email) = .error .userNotFound)) ∧
        (∀ role, hasNul role = false → ∃ users, s.answerIn order (.usersByRole role) = .ok (.users users) ∧
          Ascending (users.map (·.email)) ∧ ∀ u, u ∈ users ↔ s.shared.database.Tells u ∧ role ∈ u.roles) ∧
        (∀ email reason, unfitEmail? email = some reason →
          s.answerIn order (.user email) = .error reason.toError) ∧
        ∀ role, hasNul role = true → s.answerIn order (.usersByRole role) = .ok (.users []) := by
  obtain ⟨⟨isOpen, readOnly, db⟩⟩ := s
  cases hopen
  refine ⟨fun q => (Store.answerIn_id _ q).symm, fun order horder => ⟨?_, fun email he => ?_, fun role hrole => ?_,
    fun email reason he => answerIn_unfit _ he, fun role hrole => answerIn_nul _ hrole⟩⟩
  · refine ⟨_, answerIn_users horder hcolumns, ?_, db.usersOf_ascending _, fun u => ?_⟩
    · exact db.map_email_usersOf_everyone
    · rw [Database.mem_usersOf]
      exact and_iff_left rfl
  · rw [answerIn_user horder hcolumns he]
    cases hu : (db.usersOf (.email email)).head? with
    | some u =>
      obtain ⟨htells, hemail⟩ := Database.mem_usersOf.1 (List.mem_of_head? hu)
      exact .inl ⟨u, htells, of_decide_eq_true hemail, rfl⟩
    | none =>
      refine .inr ⟨Bool.eq_false_iff.2 fun hhas => ?_, rfl⟩
      obtain ⟨name, hname⟩ := KeyTable.mem_keys.1 (KeyTable.has_iff.1 hhas)
      have htells : db.Tells (userOf db.roles.keys (email, name)) :=
        Database.tells_iff.2 ⟨_, KeyTable.find?_eq_some.1 hname, rfl⟩
      have hmem : userOf db.roles.keys (email, name) ∈ db.usersOf (.email email) :=
        Database.mem_usersOf.2 ⟨htells, decide_eq_true rfl⟩
      rw [List.head?_eq_none_iff.1 hu] at hmem
      cases hmem
  · refine ⟨_, answerIn_usersByRole horder hcolumns hrole, db.usersOf_ascending _, fun u => ?_⟩
    rw [Database.mem_usersOf]
    exact and_congr_right fun htells => (htells.roles role).symm

/-- Three users, of whom one has two roles, one has one of these, and one has none. -/
def mixed : Database :=
  (Database.new.edit [.putUser "bob" (some "Bob"), .putUser "eve" none, .putUser "ann" none, .putRole "bob" "z",
    .putRole "ann" "a", .putRole "bob" "a"]).1

/-- Also with the joined rows in reverse, a user found by one role has its other role. -/
theorem reads_tell_rows_reversed :
    mixed.Columns ∧ ∃ users, (Store.mk ⟨true, false, mixed⟩).answerIn List.reverse (.usersByRole "a") = .ok (.users users) ∧
      ⟨"bob", "Bob", ["a", "z"]⟩ ∈ users ∧ ⟨"eve", "", []⟩ ∉ users := by
  have hcolumns : mixed.Columns := Database.AsCreated.columns ⟨rfl, rfl, rfl⟩
  have hrows : mixed.roles.rows = [(("ann", "a"), ()), (("bob", "a"), ()), (("bob", "z"), ())] := rfl
  obtain ⟨-, hreads⟩ := reads_tell_rows (s := ⟨⟨true, false, mixed⟩⟩) rfl hcolumns
  obtain ⟨-, -, hrole, -⟩ := hreads List.reverse fun rows => List.reverse_perm rows
  obtain ⟨users, hanswer, -, hmem⟩ := hrole "a" (by decide)
  refine ⟨hcolumns, users, hanswer, (hmem _).2 ⟨⟨⟨some "Bob", rfl, rfl⟩, fun role => ?_, ?_⟩, ?_⟩, fun h => ?_⟩
  · simp [KeyTable.has, hrows, eq_comm (a := role)]
  · exact List.pairwise_pair.2 (by decide)
  · exact List.mem_cons_self
  · exact absurd ((hmem _).1 h).2 (by decide)

/-- Rows that only others can have made: a user without an email, and one with a role that has NUL in it. -/
def unfitRows : Database :=
  (Database.new.edit [.putUser "" none, .putUser "bob" none, .putRole "bob" "q\x00"]).1

/-- Such rows are in keeping with the schema and told by reading all users, but not by the other reads. -/
theorem reads_withhold_unfit_rows :
    (∀ row ∈ unfitRows.roles.keys, unfitRows.users.has row.1 = true) ∧ unfitRows.Columns ∧
      unfitRows.Tells ⟨"", "", []⟩ ∧ unfitRows.Tells ⟨"bob", "", ["q\x00"]⟩ ∧
      ((Store.mk ⟨true, false, unfitRows⟩).perform .users).answer =
        .ok (.users [⟨"", "", []⟩, ⟨"bob", "", ["q\x00"]⟩]) ∧
      ((Store.mk ⟨true, false, unfitRows⟩).perform (.user "")).answer = .error (.validation "email is required") ∧
      ((Store.mk ⟨true, false, unfitRows⟩).perform (.usersByRole "q\x00")).answer = .ok (.users []) := by
  have hrows : unfitRows.roles.rows = [(("bob", "q\x00"), ())] := rfl
  have hcolumns : unfitRows.Columns := Database.AsCreated.columns ⟨rfl, rfl, rfl⟩
  refine ⟨by decide, hcolumns, ⟨⟨none, rfl, rfl⟩, fun role => ?_, .nil⟩,
    ⟨⟨none, rfl, rfl⟩, fun role => ?_, List.pairwise_singleton _ _⟩, ?_, rfl, rfl⟩
  · simp [KeyTable.has, hrows]
  · simp [KeyTable.has, hrows, eq_comm]
  · have hall : (Store.mk ⟨true, false, unfitRows⟩).answerIn id .users = .ok (.users (unfitRows.usersOf .everyone)) :=
      answerIn_users (fun rows => .refl rows) hcolumns
    rw [← Store.answerIn_id, hall]
    rfl

end Roster.Relational
