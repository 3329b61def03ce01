import Roster.Embedded.Store
import Roster.Proofs.Embedded.Lookup
import Roster.Proofs.Embedded.Runs
import Roster.Proofs.RecordRoundTrip

/-!
# Reading roles off any tables

The index may hold anything: keys that do not split, keys that lead nowhere, keys of roles that begin
alike. A lookup collects the record of each email that is indexed under the role and has a record, in
the order of the emails, and looks at no other record. So only one of these can make it fail. The list of
all roles needs the index alone and does not fail: it has the roles of the keys that split, each once.
-/

namespace Roster.Embedded

open Operation Script

variable {t : Tables} {role : String} {key : Bytes} {row : String × Bytes}

/-! ## The records of a role -/

/-- The record that a key of the index leads to, with its email. -/
def Tables.recordOf? (t : Tables) (key : Bytes) : Option (String × Bytes) :=
  (splitKey? key).bind fun p => (t.users.find? p.2).map fun record => (p.2, record)

/-- The records that the keys in the range of a role lead to. -/
def Tables.recordsOf (t : Tables) (role : String) : List (String × Bytes) :=
  (t.index.keysWithin (roleRange role).1 (roleRange role).2).filterMap t.recordOf?

theorem Tables.recordOf?_eq_some :
    t.recordOf? key = some row ↔
      ∃ role, hasNul role = false ∧ key = memberKey role row.1 ∧ t.users.find? row.1 = some row.2 := by
  obtain ⟨email, record⟩ := row
  constructor
  · intro h
    obtain ⟨⟨role, e⟩, hs, h⟩ := Option.bind_eq_some_iff.1 h
    obtain ⟨record', hf, he⟩ := Option.map_eq_some_iff.1 h
    cases he
    obtain ⟨hkey, hrole⟩ := splitKey?_eq_some.1 hs
    exact ⟨role, hrole, hkey, hf⟩
  · rintro ⟨role, hrole, rfl, hf⟩
    simp [recordOf?, splitKey?_memberKey hrole, hf]

/-- The range of a role lets no key of another role in, so its keys are told by their emails. -/
theorem Tables.recordOf?_within (hrole : hasNul role = false)
    (hkey : key ∈ t.index.keysWithin (roleRange role).1 (roleRange role).2) :
    t.recordOf? key = some row ↔ key = memberKey role row.1 ∧ t.users.find? row.1 = some row.2 := by
  rw [recordOf?_eq_some]
  constructor
  · rintro ⟨role', hrole', rfl, hf⟩
    obtain ⟨b, hb⟩ := inRange_iff.1 (KeyTable.mem_keysWithin.1 hkey).2
    have : role' = role := (prefix_memberKey hrole hrole').1 ⟨b, by rw [hb]; simp⟩
    exact ⟨by rw [this], hf⟩
  · rintro ⟨rfl, hf⟩
    exact ⟨role, hrole, rfl, hf⟩

/-- Those are the records of the emails that are indexed under the role. -/
theorem Tables.mem_recordsOf (hrole : hasNul role = false) :
    row ∈ t.recordsOf role ↔
      t.index.has (memberKey role row.1) = true ∧ t.users.find? row.1 = some row.2 := by
  rw [recordsOf, List.mem_filterMap, KeyTable.has_iff]
  constructor
  · rintro ⟨key, hkey, hrow⟩
    obtain ⟨rfl, hf⟩ := (recordOf?_within hrole hkey).1 hrow
    exact ⟨(KeyTable.mem_keysWithin.1 hkey).1, hf⟩
  · rintro ⟨hkey, hf⟩
    have hwithin := KeyTable.mem_keysWithin.2 ⟨hkey, inRange_iff.2 ⟨utf8 row.1, rfl⟩⟩
    exact ⟨_, hwithin, (recordOf?_within hrole hwithin).2 ⟨rfl, hf⟩⟩

/-- They come in the order of their emails, each once. -/
theorem Tables.recordsOf_ascending (t : Tables) (hrole : hasNul role = false) :
    Ascending ((t.recordsOf role).map (·.1)) := by
  rw [Ascending, List.pairwise_map, recordsOf, List.pairwise_filterMap]
  refine (t.index.keysWithin_ascending _ _).imp_of_mem fun {key key'} hkey hkey' hlt row hrow row' hrow' => ?_
  rw [((recordOf?_within hrole hkey).1 hrow).1, ((recordOf?_within hrole hkey').1 hrow').1,
    memberKey_lt hrole hrole] at hlt
  simpa [KeyOrder.lt] using hlt

/-! ## Reading records -/

/-- What reading records one after the other comes to: the users of all of them, or the fault of the
first that does not decode. -/
inductive Reads : List (String × Bytes) → Except StoreError (List User) → Prop where
  | all {rows : List (String × Bytes)} {users : List User}
      (h : List.Forall₂ (fun row u => Record.decode row.2 = .ok u) rows users) : Reads rows (.ok users)
  | upTo (before : List (String × Bytes)) {after : List (String × Bytes)} {email : String} {record : Bytes}
      {f : Record.Fault}
      (hbefore : ∀ row ∈ before, ∃ u, Record.decode row.2 = .ok u) (h : Record.decode record = .error f) :
      Reads (before ++ (email, record) :: after) (.error (.serialization email (f.message record)))

theorem Reads.cons {rows : List (String × Bytes)} {u : User} {answer : Except StoreError (List User)}
    (hu : Record.decode row.2 = .ok u) (h : Reads rows answer) :
    Reads (row :: rows) (answer.map (u :: ·)) := by
  cases h with
  | all h => exact .all (.cons hu h)
  | upTo before hbefore h => exact .upTo (row :: before) (List.forall_mem_cons.2 ⟨⟨u, hu⟩, hbefore⟩) h

variable (shared : Shared) (gone handed : Bool)

/-- A key leads to the user of its record, or nowhere, or to a record that does not decode. -/
theorem leads_followMember (role : String) (key : Bytes) :
    Leads serve (followMember role key) (shared, ⟨.reading t, gone, handed⟩)
      (match t.recordOf? key with
        | none => .ok none
        | some row =>
          match Record.decode row.2 with
          | .ok u => .ok (some u)
          | .error f => .error (.serialization row.1 (f.message row.2)))
      (shared, ⟨.reading t, gone, handed⟩) := by
  unfold followMember Tables.recordOf?
  cases hs : splitKey? key with
  | none => exact (Leads.report _).bind (.pure none)
  | some p =>
    obtain ⟨role', email⟩ := p
    refine (Leads.ask rfl).bind ?_
    simp only [View.tables, Option.bind_some]
    cases hf : t.users.find? email with
    | none => exact (Leads.report _).bind (.pure none)
    | some record =>
      simp only [Option.map_some, decodeUser]
      cases Record.decode record with
      | ok u => exact (Leads.pure u).bind (.pure _)
      | error f => exact (Leads.fail _).error

/-- Following keys reads the records that they lead to, in their order. -/
theorem leads_followMembers (role : String) (keys : List Bytes) :
    ∃ answer, Leads serve (keys.mapM (followMember role)) (shared, ⟨.reading t, gone, handed⟩) answer
        (shared, ⟨.reading t, gone, handed⟩) ∧
      Reads (keys.filterMap t.recordOf?) (answer.map (·.filterMap id)) := by
  induction keys with
  | nil => exact ⟨.ok [], .pure [], .all .nil⟩
  | cons key keys ih =>
    obtain ⟨answer, hrest, hreads⟩ := ih
    have hkey := leads_followMember (t := t) shared gone handed role key
    cases hrow : t.recordOf? key with
    | none =>
      simp only [hrow] at hkey
      refine ⟨_, hkey.mapM_cons hrest, ?_⟩
      rw [List.filterMap_cons_none hrow]
      cases answer <;> exact hreads
    | some row =>
      rw [List.filterMap_cons_some hrow]
      cases hd : Record.decode row.2 with
      | ok u =>
        simp only [hrow, hd] at hkey
        refine ⟨_, hkey.mapM_cons hrest, ?_⟩
        have := hreads.cons hd
        cases answer <;> exact this
      | error f =>
        simp only [hrow, hd] at hkey
        rw [List.mapM_cons]
        exact ⟨_, hkey.error, .upTo [] (by simp) hd⟩

variable {shared}

theorem leads_getUsersByRole (hopen : shared.isOpen = true) (hrole : hasNul role = false) (view : View) :
    ∃ answer, Leads serve (getUsersByRole role) (shared, ⟨view, gone, handed⟩) (answer.map sortUsers)
        (shared, ⟨.reading shared.tables, gone, true⟩) ∧
      Reads (shared.tables.recordsOf role) answer := by
  obtain ⟨answer, hfollow, hreads⟩ := leads_followMembers (t := shared.tables) shared gone true role
    (shared.tables.index.keysWithin (roleRange role).1 (roleRange role).2)
  refine ⟨_, ?_, hreads⟩
  rw [Leads, run_followMembers _ _ _ hopen hrole, ← Leads]
  cases answer with
  | ok users => exact hfollow.bind (.pure _)
  | error e => exact hfollow.error

/-! ## The lookup -/

/-- Whatever the tables of an open store hold, a lookup of a role without NUL collects, once each, the
records of the emails whose key is in the index and that have a record. It answers their users by email
if all of these records decode, and otherwise names the email of the first that does not. -/
theorem usersByRole_of_any_tables {s : Store} (hopen : s.shared.isOpen = true) (hrole : hasNul role = false) :
    ∃ rows : List (String × Bytes),
      Ascending (rows.map (·.1)) ∧
      (∀ email record, (email, record) ∈ rows ↔
        s.shared.tables.index.has (utf8 role ++ 0 :: utf8 email) = true ∧
          s.shared.tables.users.find? email = some record) ∧
      ((∃ users sorted, List.Forall₂ (fun row u => Record.decode row.2 = .ok u) rows users ∧
          sorted.Perm users ∧ (sorted.Pairwise fun u v => textLE u.email v.email = true) ∧
          (s.perform (.usersByRole role)).answer = .ok (.users sorted)) ∨
        ∃ before after email record f, rows = before ++ (email, record) :: after ∧
          (∀ row ∈ before, ∃ u, Record.decode row.2 = .ok u) ∧ Record.decode record = .error f ∧
          (s.perform (.usersByRole role)).answer = .error (.serialization email (f.message record))) := by
  refine ⟨s.shared.tables.recordsOf role, s.shared.tables.recordsOf_ascending hrole,
    fun email record => Tables.mem_recordsOf hrole, ?_⟩
  obtain ⟨answer, hleads, hreads⟩ := leads_getUsersByRole false false hopen hrole .none
  have hanswer : (s.perform (.usersByRole role)).answer = (answer.map sortUsers).map .users := by
    cases answer with
    | ok users => exact (hleads.bind (.pure (Answer.users (sortUsers users)))).1
    | error e => exact hleads.error.1
  generalize s.shared.tables.recordsOf role = rows at hreads
  cases hreads with
  | @all _ users h => exact .inl ⟨users, sortUsers users, h, sortUsers_perm users, sortUsers_sorted users, hanswer⟩
  | upTo before hbefore h => exact .inr ⟨before, _, _, _, _, rfl, hbefore, h, hanswer⟩

/-- An index with keys that lead nowhere about the one that leads to a user, and the key of a role that
goes on with the lowest byte, which leads to a record that does not decode. -/
def crowded : Tables where
  users := (KeyTable.empty.insert "ann" (Record.encode ⟨"ann", "", []⟩)).insert "eve" [0]
  index := [memberKey "d" "ann", memberKey "d" "bob", [0x64, 0, 0xFF], memberKey "d\x01" "eve"].foldl
    (fun index key => index.insert key []) .empty

/-- One lookup passes over the keys that lead nowhere, and the other one names the bad record. -/
theorem usersByRole_of_crowded :
    ((Store.mk "f" ⟨true, crowded⟩).perform (.usersByRole "d")).answer = .ok (.users [⟨"ann", "", []⟩]) ∧
      ((Store.mk "f" ⟨true, crowded⟩).perform (.usersByRole "d\x01")).answer =
        .error (.serialization "eve" "expected value at line 1 column 1") := by
  refine ⟨?_, rfl⟩
  obtain ⟨rows, hascending, hmem, hanswer⟩ :=
    @usersByRole_of_any_tables "d" ⟨"f", ⟨true, crowded⟩⟩ rfl rfl
  have hrow (row : String × Bytes) : row ∈ rows ↔ row = ("ann", Record.encode ⟨"ann", "", []⟩) := by
    have husers : crowded.users.rows = [("ann", Record.encode ⟨"ann", "", []⟩), ("eve", [0])] := rfl
    rw [hmem, KeyTable.find?_eq_some, husers]
    constructor
    · rintro ⟨hkey, h⟩
      rcases List.mem_cons.1 h with h | h
      · exact h
      · -- the other record is indexed under the other role only
        rw [(Prod.ext_iff.1 (List.mem_singleton.1 h)).1] at hkey
        exact absurd hkey (by decide)
    · rintro rfl
      exact ⟨by decide, List.mem_cons_self⟩
  have hrows : rows = [("ann", Record.encode ⟨"ann", "", []⟩)] := by
    refine List.perm_singleton.1 ((List.perm_ext_iff_of_nodup hascending.nodup.of_map (List.nodup_singleton _)).2 ?_)
    simpa using hrow
  subst hrows
  rcases hanswer with ⟨users, sorted, hall, hperm, -, hanswer⟩ | ⟨before, after, email, record, f, he, -, hf, -⟩
  · obtain ⟨u, _, hu, hnil, rfl⟩ := List.forall₂_cons_left_iff.1 hall
    rw [Record.decode_encode] at hu
    cases hu
    cases hnil
    rw [hanswer, List.perm_singleton.1 hperm]
  · have := (hrow (email, record)).1 (by rw [he]; simp)
    cases this
    rw [Record.decode_encode] at hf
    cases hf

/-! ## The list of all roles -/

/-- A key tells a role when the bytes before its first zero are that role and those after it a text. -/
theorem roleOf_iff :
    RoleOf key role ↔ ∃ before after email, key = before ++ 0 :: after ∧ 0 ∉ before ∧
      ofUtf8? before = some role ∧ ofUtf8? after = some email := by
  simp only [RoleOf, splitKey?_eq_some, ofUtf8?_eq_some]
  constructor
  · rintro ⟨email, rfl, hrole⟩
    exact ⟨utf8 role, utf8 email, email, rfl, zero_not_mem hrole, rfl, rfl⟩
  · rintro ⟨_, _, email, rfl, hzero, rfl, rfl⟩
    rw [zero_mem_utf8, Bool.not_eq_true] at hzero
    exact ⟨email, rfl, hzero⟩

/-- Whatever the index of an open store holds, the list of all roles is strictly ascending, and a role is
in it if and only if some key has that role before its first zero and a text behind. -/
theorem liveRoles_of_any_index {s : Store} (hopen : s.shared.isOpen = true) :
    ∃ roles : List String, (s.perform .liveRoles).answer = .ok (.roles roles) ∧
      (roles.Pairwise fun role role' => utf8 role < utf8 role') ∧ roles.Nodup ∧
      ∀ role, role ∈ roles ↔ ∃ before after email, before ++ 0 :: after ∈ s.shared.tables.index.keys ∧
        0 ∉ before ∧ ofUtf8? before = some role ∧ ofUtf8? after = some email := by
  have hkeys := s.shared.tables.index.keys_ascending
  have hnone : NotBefore none s.shared.tables.index.keys := nofun
  have hascending := rolesInTurn_ascending hkeys hnone
  have hanswer : (s.perform .liveRoles).answer =
      .ok (.roles (rolesInTurn none s.shared.tables.index.keys)) := by
    show ((do return .roles (← liveRoles) : Operation Answer).run serve (s.shared, .waiting)).answer = _
    rw [run_bind, Caller.waiting, run_liveRoles _ _ _ hopen]
    rfl
  refine ⟨_, hanswer, hascending.imp fun h => ?_, hascending.nodup, fun role => ?_⟩
  · simpa [KeyOrder.lt] using h
  · rw [mem_rolesInTurn hkeys hnone]
    simp only [roleOf_iff]
    constructor
    · rintro ⟨-, _, hkey, before, after, email, rfl, h⟩
      exact ⟨before, after, email, hkey, h⟩
    · rintro ⟨before, after, email, hkey, h⟩
      exact ⟨nofun, _, hkey, before, after, email, rfl, h⟩

/-- Two keys of one role with one between them that does not split, a role that begins alike, and keys
without a separator or without a role. -/
def interrupted : Tables where
  users := .empty
  index := [[0x61], [0x61, 0, 0x78], [0x61, 0, 0x80], memberKey "a" "é", memberKey "a\x01" "x", [0xFF, 0]].foldl
    (fun index key => index.insert key []) .empty

/-- The role of both keys is listed once, and the one that begins alike after it. -/
theorem liveRoles_of_interrupted :
    ((Store.mk "f" ⟨true, interrupted⟩).perform .liveRoles).answer = .ok (.roles ["a", "a\x01"]) ∧
      ["a", "a\x01"].Nodup ∧
      ∀ role, role ∈ ["a", "a\x01"] ↔ ∃ before after email, before ++ 0 :: after ∈ interrupted.index.keys ∧
        0 ∉ before ∧ ofUtf8? before = some role ∧ ofUtf8? after = some email := by
  obtain ⟨roles, hanswer, -, hnodup, hmem⟩ := @liveRoles_of_any_index ⟨"f", ⟨true, interrupted⟩⟩ rfl
  have hroles : ((Store.mk "f" ⟨true, interrupted⟩).perform .liveRoles).answer = .ok (.roles ["a", "a\x01"]) := rfl
  rw [hroles] at hanswer
  cases hanswer
  exact ⟨hroles, hnodup, hmem⟩

end Roster.Embedded
