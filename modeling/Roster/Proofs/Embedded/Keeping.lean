import Roster.Embedded.Engine
import Roster.Proofs.Embedded.Index
import Roster.Proofs.RecordRoundTrip
import Roster.Proofs.Roll

/-!
# Tables that keep a roll

The file keeps the entries of a roll when the table of users holds a record for every entry and the
index one key for every role of an entry, and neither holds anything else. A mutation only patches
the index, so the tables afterwards keep the entries afterwards because they kept those before.
-/

namespace Roster.Embedded

/-- The key stands for a role of somebody. -/
def IsMember (entries : Entries) (key : Bytes) : Prop :=
  ∃ email x, entries.find? email = some x ∧ ∃ role ∈ x.roles, key = memberKey role email

/-- The tables hold the entries and nothing else. -/
structure Keeps (t : Tables) (entries : Entries) : Prop where
  users (email : String) :
    t.users.find? email = (entries.find? email).map fun x => Record.encode (x.user email)
  index (key value : Bytes) : t.index.find? key = some value ↔ value = [] ∧ IsMember entries key

/-- No role of an entry contains the separator. -/
def Separable (entries : Entries) : Prop :=
  ∀ email x, entries.find? email = some x → ∀ role ∈ x.roles, hasNul role = false

theorem separable_of_fit {r : Roll} (h : r.Fit) : Separable r.entries := by
  intro email x hx role hrole
  exact User.hasNul_of_fit_role ((User.unfit?_eq_none.1 (h email x hx)).2.2 role hrole)

theorem keeps_empty : Keeps .empty .empty where
  users _ := rfl
  index key value := by simp [Tables.empty, IsMember]

variable {t : Tables} {entries entries' : Entries} {key : Bytes} {email : String}

namespace Keeps

theorem mem_index (h : Keeps t entries) : key ∈ t.index.keys ↔ IsMember entries key := by
  rw [KeyTable.mem_keys]
  exact ⟨fun ⟨_, hv⟩ => ((h.index _ _).1 hv).2, fun hm => ⟨[], (h.index _ _).2 ⟨rfl, hm⟩⟩⟩

theorem find?_index (h : Keeps t entries) (hm : IsMember entries key) : t.index.find? key = some [] :=
  (h.index _ _).2 ⟨rfl, hm⟩

theorem users_eq (h : Keeps t entries) :
    t.users = entries.map fun email x => Record.encode (x.user email) :=
  KeyTable.ext_find? fun email => by rw [h.users, KeyTable.find?_map]

/-- The entries leave no choice: they determine both tables, byte for byte. -/
theorem unique {t' : Tables} (h : Keeps t entries) (h' : Keeps t' entries) : t = t' := by
  have husers : t.users = t'.users := by rw [h.users_eq, h'.users_eq]
  have hindex : t.index = t'.index := by
    refine KeyTable.ext_find? fun key => Option.ext fun value => ?_
    rw [h.index, h'.index]
  cases t
  cases t'
  cases husers
  cases hindex
  rfl

end Keeps

/-! ## Mutations -/

/-- Elsewhere than at one email, being a member does not change. -/
theorem isMember_congr (h : ∀ email', email' ≠ email → entries'.find? email' = entries.find? email')
    (hb : ∀ x, entries.find? email = some x → ∀ role ∈ x.roles, key ≠ memberKey role email)
    (ha : ∀ x, entries'.find? email = some x → ∀ role ∈ x.roles, key ≠ memberKey role email) :
    IsMember entries' key ↔ IsMember entries key := by
  constructor
  · rintro ⟨email', x, hx, role, hrole, hkey⟩
    by_cases he : email' = email
    · subst he
      exact absurd hkey (ha x hx role hrole)
    · exact ⟨email', x, h email' he ▸ hx, role, hrole, hkey⟩
  · rintro ⟨email', x, hx, role, hrole, hkey⟩
    by_cases he : email' = email
    · subst he
      exact absurd hkey (hb x hx role hrole)
    · exact ⟨email', x, (h email' he).symm ▸ hx, role, hrole, hkey⟩

/-- Once a user has lost a role, its key stands for nobody: no one else ever had the same key. -/
theorem not_isMember_of_lost (hsep : Separable entries)
    (helse : ∀ email', email' ≠ email → entries'.find? email' = entries.find? email') {x : Profile}
    (hx : entries.find? email = some x) {role : String} (hrole : role ∈ x.roles)
    (hlost : ∀ x', entries'.find? email = some x' → ∀ role' ∈ x'.roles, memberKey role email ≠ memberKey role' email) :
    ¬ IsMember entries' (memberKey role email) := by
  rintro ⟨email', x', hx', role', hrole', hkey⟩
  by_cases he : email' = email
  · subst he
    exact hlost x' hx' role' hrole' hkey
  · rw [helse email' he] at hx'
    exact he ((memberKey_inj (hsep _ _ hx _ hrole) (hsep _ _ hx' _ hrole')).1 hkey).2.symm

/-- Once the record of an email is written and the index brought from its roles before to those
afterwards, the tables keep the entries afterwards. Only the roles before have to be free of the
separator: they must not be mistaken for the keys of somebody else. -/
theorem Keeps.change (h : Keeps t entries) (hsep : Separable entries)
    (helse : ∀ email', email' ≠ email → entries'.find? email' = entries.find? email')
    {users : KeyTable String Bytes}
    (husers : ∀ email', users.find? email' =
      if email' = email then (entries'.find? email).map fun x => Record.encode (x.user email)
      else t.users.find? email')
    {previous next : ItemSet String}
    (hp : ∀ role, role ∈ previous.items ↔ ∃ x, entries.find? email = some x ∧ role ∈ x.roles)
    (hn : ∀ role, role ∈ next.items ↔ ∃ x, entries'.find? email = some x ∧ role ∈ x.roles) :
    Keeps ⟨users, synced t.index email previous next⟩ entries' where
  users email' := by
    rw [husers]
    split
    · rename_i he
      rw [he]
    · rw [h.users, helse email' ‹_›]
  index key value := by
    have hpresent : ∀ role ∈ previous.items, t.index.find? (memberKey role email) = some [] := by
      intro role hrole
      obtain ⟨x, hx, hm⟩ := (hp role).1 hrole
      exact h.find?_index ⟨email, x, hx, role, hm, rfl⟩
    have hnext {key : Bytes} (hno : ¬ ∃ role ∈ next.items, key = memberKey role email) (x : Profile)
        (hx : entries'.find? email = some x) (role : String) (hm : role ∈ x.roles) : key ≠ memberKey role email :=
      fun hkey => hno ⟨role, (hn role).2 ⟨x, hx, hm⟩, hkey⟩
    rw [find?_synced_of_present hpresent]
    -- a key is that of a role afterwards, of a role that was lost, or of nobody's role here
    by_cases hkn : ∃ role ∈ next.items, key = memberKey role email
    · rw [if_pos hkn]
      obtain ⟨role, hrole, hkey⟩ := hkn
      obtain ⟨x, hx, hm⟩ := (hn role).1 hrole
      have : IsMember entries' key := ⟨email, x, hx, role, hm, hkey⟩
      simp [this, eq_comm]
    rw [if_neg hkn]
    by_cases hkp : ∃ role ∈ previous.items, key = memberKey role email
    · rw [if_pos hkp]
      obtain ⟨role, hrole, rfl⟩ := hkp
      obtain ⟨x, hx, hm⟩ := (hp role).1 hrole
      simp [not_isMember_of_lost hsep helse hx hm (hnext hkn)]
    · rw [if_neg hkp, h.index, isMember_congr helse _ (hnext hkn)]
      exact fun x hx role hm hkey => hkp ⟨role, (hp role).2 ⟨x, hx, hm⟩, hkey⟩

end Roster.Embedded
