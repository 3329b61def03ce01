import Mathlib.Data.List.Perm.Basic
import Roster.Embedded.Operations
import Roster.Proofs.RecordSkipping

/-!
# What a record says of a user

Of an object the reader takes the three members of a user and passes over the others. So what it answers
depends on what is given under the three keys, and on nothing else: neither on the order of the members, nor on
members with other keys, nor on how the text is laid out.
-/

namespace Roster.Record

/-! ## Members -/

/-- The values that are given under a key. -/
def given (key : String) (members : List (String × Json)) : List Json :=
  (members.filter (·.1 = key)).map (·.2)

/-- The values that a member may have. -/
def Field.Takes : Field → Json → Prop
  | .email, .text _ => True
  | .fullName, .text _ => True
  | .roles, .list l => ∃ roles : List String, l = roles.map .text
  | _, _ => False

/-- The members of an object are those of a user: an email, a full name unless it is empty, and roles unless there
are none; each of them once. -/
structure Tells (members : List (String × Json)) (u : User) : Prop where
  email : given "email" members = [.text u.email]
  fullName : given "full_name" members = [.text u.fullName] ∨ given "full_name" members = [] ∧ u.fullName = ""
  roles : given "roles" members = [.list (u.roles.map .text)] ∨ given "roles" members = [] ∧ u.roles = []

/-- The strings that are given for the member stand for texts. -/
def Field.Legible : Field → Json → Prop
  | .roles, .list l => .string ∉ l
  | .roles, _ => True
  | _, v => v ≠ .string

/-- Whatever strings are given for a user, they stand for texts. -/
def Legible (members : List (String × Json)) : Prop := ∀ f : Field, ∀ v ∈ given f.name members, f.Legible v

/-- The text of an object with these members. -/
def ObjectText (members : List (String × Json)) (text : Bytes) : Prop :=
  ∃ w s w', IsBlank w ∧ Spells (.members true members) s ∧ IsBlank w' ∧
    text = w ++ Sign.objectOpen :: (s ++ Sign.objectClose :: w')

theorem given_cons (key : String) (p : String × Json) (members : List (String × Json)) :
    given key (p :: members) = (if p.1 = key then [p.2] else []) ++ given key members := by
  unfold given
  rw [List.filter_cons]
  split <;> simp_all

theorem Legible.of_cons {p : String × Json} {members : List (String × Json)} (h : Legible (p :: members)) :
    Legible members := by
  intro f v hv
  refine h f v ?_
  rw [given_cons]
  exact List.mem_append_right _ hv

theorem Legible.head {key : String} {v : Json} {members : List (String × Json)} (h : Legible ((key, v) :: members))
    (f : Field) (hkey : key = f.name) : f.Legible v := by
  refine h f v ?_
  rw [given_cons, if_pos hkey]
  exact List.mem_cons_self

/-- The values read so far. -/
def Members.said (m : Members) : Field → List Json
  | .email => m.email.toList.map .text
  | .fullName => m.fullName.toList.map .text
  | .roles => m.roles.toList.map fun l => .list (l.map .text)

namespace Field

variable {f : Field} {l l' : List Json}

/-- The values may be given for the member: none, or one of its form. -/
def Fits (f : Field) (l : List Json) : Prop := l = [] ∨ ∃ v, l = [v] ∧ f.Takes v

theorem Fits.of_append (h : f.Fits (l ++ l')) : f.Fits l := by
  rcases h with hnil | ⟨v, hv, htakes⟩
  · exact .inl (List.append_eq_nil_iff.1 hnil).1
  · rcases List.append_eq_singleton_iff.1 hv with ⟨hl, -⟩ | ⟨hl, -⟩
    · exact .inl hl
    · exact .inr ⟨v, hl, htakes⟩

theorem field?_name (f : Field) : field? f.name = some f := by
  cases f <;> decide

theorem field?_eq_some {key : String} : field? key = some f ↔ key = f.name := by
  refine ⟨fun h => ?_, fun h => by rw [h, field?_name]⟩
  unfold field? at h
  split at h
  · cases h
    assumption
  split at h
  · cases h
    assumption
  split at h
  · cases h
    assumption
  · cases h

theorem field?_eq_none {key : String} : field? key = none ↔ ∀ f : Field, key ≠ f.name := by
  constructor
  · rintro h f rfl
    rw [field?_name] at h
    cases h
  · intro h
    rw [field?, if_neg (h .email), if_neg (h .fullName), if_neg (h .roles)]

end Field

theorem Members.has_eq_false {m : Members} {f : Field} : m.has f = false ↔ m.said f = [] := by
  cases f <;> simp [Members.has, Members.said]

/-! ## Values of members -/

variable {first : Bool} {s w r rest : Bytes} {b : UInt8} {v : Json}

theorem readString_spelled {t : String} (hw : IsBlank w) (h : Spells (.value (.text t)) s) (rest : Bytes) :
    readString (w ++ (s ++ rest)) = .ok (t, rest) := by
  cases h with
  | @text s _ hs =>
    have hquote : Sign.skipSpace (w ++ (inQuotes s ++ rest)) = Sign.quote :: (s ++ [Sign.quote] ++ rest) :=
      skipSpace_blank_cons hw rfl _
    rw [readString, hquote, List.append_assoc]
    simp only [if_true]
    exact readText_spelled hs rest

theorem readString_error (hw : IsBlank w) (h : Spells (.value v) s) (hv : ¬ v.IsString) (rest : Bytes) :
    ∃ e, readString (w ++ (s ++ rest)) = .error e := by
  obtain ⟨b, r, rfl, hb, hstring, -⟩ := h.opens
  refine ⟨unwanted .text b (r ++ rest), ?_⟩
  rw [readString, List.cons_append, skipSpace_blank_cons hw hb.1]
  simp only [if_neg fun h => hv (hstring h)]

theorem nextItem_spelled (hw : Separator first w) (h : Spells (.value v) s) (rest : Bytes) :
    nextItem first (w ++ (s ++ rest)) = .ok (some (s ++ rest)) := by
  obtain ⟨b, r, rfl, ⟨hspace, -, hclose, -⟩, -⟩ := h.opens
  rw [List.cons_append]
  cases hw with
  | first hw =>
    rw [nextItem, skipSpace_blank_cons hw hspace]
    simp only [if_neg hclose, if_true]
  | comma hw hw' =>
    have hne : Sign.comma ≠ Sign.listClose := by decide
    rw [nextItem, List.append_assoc, List.cons_append, skipSpace_blank_cons hw rfl]
    simp only [if_neg hne, skipSpace_blank_cons hw' hspace, if_neg hclose]
    rfl

/-- Behind some space the bracket is closed. -/
def Closes (close : UInt8) (r rest : Bytes) : Prop := Sign.skipSpace r = close :: rest

theorem readItems_spelled {l : List String} (h : Spells (.items first (l.map .text)) s) (rest : Bytes) :
    ∃ r, Closes Sign.listClose r rest ∧ readItems first (s ++ Sign.listClose :: rest) = .ok (l, r) := by
  induction l generalizing first s with
  | nil =>
    cases h with
    | noItem hw =>
      have hclose : Closes Sign.listClose (s ++ Sign.listClose :: rest) rest := skipSpace_blank_cons hw rfl rest
      refine ⟨_, hclose, readItems_end ?_⟩
      rw [nextItem, hclose]
      simp
  | cons t l ih =>
    cases h with
    | @item _ w s s' _ _ hsep hv hl =>
      obtain ⟨r, hclose, hitems⟩ := ih hl
      refine ⟨r, hclose, ?_⟩
      rw [List.append_assoc, List.append_assoc]
      exact readItems_item (nextItem_spelled hsep hv _) (readString_spelled isBlank_nil hv _) hitems

/-- One item that is no text is enough. -/
theorem readItems_error {l : List Json} (h : Spells (.items first l) s) (hlegible : .string ∉ l)
    (hl : ¬ ∃ roles : List String, l = roles.map .text) (rest : Bytes) :
    ∃ e, readItems first (s ++ Sign.listClose :: rest) = .error e := by
  induction l generalizing first s with
  | nil => exact absurd ⟨[], rfl⟩ hl
  | cons v l ih =>
    cases h with
    | @item _ w s s' _ _ hsep hv hrest =>
      rw [List.append_assoc, List.append_assoc, readItems_eq, nextItem_spelled hsep hv]
      by_cases hstring : v.IsString
      · -- a text, so the trouble is further on
        obtain ⟨t, rfl⟩ : ∃ t, v = .text t := by
          cases v with
          | text t => exact ⟨t, rfl⟩
          | string => exact absurd List.mem_cons_self hlegible
          | _ => exact hstring.elim
        have hmore : ¬ ∃ roles : List String, l = roles.map .text := by
          rintro ⟨roles, rfl⟩
          exact hl ⟨t :: roles, rfl⟩
        have hread := readString_spelled isBlank_nil hv (s' ++ Sign.listClose :: rest)
        rw [List.nil_append] at hread
        obtain ⟨e, he⟩ := ih hrest (fun h => hlegible (List.mem_cons_of_mem _ h)) hmore
        exact ⟨e, by simp only [hread, he]⟩
      · obtain ⟨e, he⟩ := readString_error isBlank_nil hv hstring (s' ++ Sign.listClose :: rest)
        rw [List.nil_append] at he
        exact ⟨e, by simp only [he]⟩

theorem readStrings_spelled {l : List String} (hw : IsBlank w) (h : Spells (.value (.list (l.map .text))) s)
    (rest : Bytes) : readStrings (w ++ (s ++ rest)) = .ok (l, rest) := by
  cases h with
  | @list s _ hitems =>
    obtain ⟨r, hclose, hread⟩ := readItems_spelled hitems rest
    have hend : closeList r = .ok rest := by
      rw [closeList, hclose]
      simp
    rw [readStrings, List.cons_append, skipSpace_blank_cons hw rfl, List.append_assoc]
    simp only [if_true, List.singleton_append, hread, hend]
    rfl

theorem readStrings_error (hw : IsBlank w) (h : Spells (.value v) s) (hlegible : Field.roles.Legible v)
    (hv : ¬ Field.roles.Takes v) (rest : Bytes) : ∃ e, readStrings (w ++ (s ++ rest)) = .error e := by
  by_cases hlist : v.IsList
  · cases h with
    | @list s l hitems =>
      obtain ⟨e, he⟩ := readItems_error hitems hlegible hv rest
      refine ⟨e, ?_⟩
      rw [readStrings, List.cons_append, skipSpace_blank_cons hw rfl, List.append_assoc]
      simp only [if_true, List.singleton_append, he]
    | _ => exact hlist.elim
  · obtain ⟨b, r, rfl, hb, -, hopen⟩ := h.opens
    refine ⟨unwanted .list b (r ++ rest), ?_⟩
    rw [readStrings, List.cons_append, skipSpace_blank_cons hw hb.1]
    simp only [if_neg fun h => hlist (hopen h)]

/-! ## Members read -/

variable {m m' : Members} {f : Field}

/-- A member that has not been read yet is read, if its value has the right form. -/
theorem readMember_spelled (hw : IsBlank w) (h : Spells (.value v) s) (hm : m.said f = []) (hv : f.Takes v)
    (rest : Bytes) : ∃ m', readMember m (some f) (w ++ (s ++ rest)) = .ok (m', rest) ∧
      ∀ f', m'.said f' = m.said f' ++ if f.name = f'.name then [v] else [] := by
  cases f with
  | email =>
    cases v with
    | text t =>
      refine ⟨{ m with email := some t }, ?_, fun f' => ?_⟩
      · rw [readMember, readString_spelled hw h]
        rfl
      · cases f' <;> simp_all [Members.said, Field.name]
    | _ => exact hv.elim
  | fullName =>
    cases v with
    | text t =>
      refine ⟨{ m with fullName := some t }, ?_, fun f' => ?_⟩
      · rw [readMember, readString_spelled hw h]
        rfl
      · cases f' <;> simp_all [Members.said, Field.name]
    | _ => exact hv.elim
  | roles =>
    cases v with
    | list l =>
      obtain ⟨roles, rfl⟩ := hv
      refine ⟨{ m with roles := some roles }, ?_, fun f' => ?_⟩
      · rw [readMember, readStrings_spelled hw h]
        rfl
      · cases f' <;> simp_all [Members.said, Field.name]
    | _ => exact hv.elim

/-- A string that is known would be taken by the members that are texts. -/
theorem Field.Legible.not_isString (h : f.Legible v) (hv : ¬ f.Takes v) (hf : f ≠ .roles) : ¬ v.IsString := by
  cases v with
  | text t =>
    cases f with
    | email => exact absurd trivial hv
    | fullName => exact absurd trivial hv
    | roles => exact absurd rfl hf
  | string =>
    cases f with
    | email => exact absurd rfl h
    | fullName => exact absurd rfl h
    | roles => exact absurd rfl hf
  | _ => exact id

theorem readMember_error (hw : IsBlank w) (h : Spells (.value v) s) (hlegible : f.Legible v) (hv : ¬ f.Takes v)
    (rest : Bytes) : ∃ e, readMember m (some f) (w ++ (s ++ rest)) = .error e := by
  cases f with
  | email =>
    obtain ⟨e, he⟩ := readString_error hw h (hlegible.not_isString hv (by decide)) rest
    exact ⟨e, by rw [readMember, he]; rfl⟩
  | fullName =>
    obtain ⟨e, he⟩ := readString_error hw h (hlegible.not_isString hv (by decide)) rest
    exact ⟨e, by rw [readMember, he]; rfl⟩
  | roles =>
    obtain ⟨e, he⟩ := readStrings_error hw h hlegible hv rest
    exact ⟨e, by rw [readMember, he]; rfl⟩

theorem nextKey_separator {key : String} {k : Bytes} (hw : Separator first w) (hk : SpellsChars k key.toList)
    (rest : Bytes) : nextKey first (w ++ (inQuotes k ++ rest)) = .ok (some (key, rest)) := by
  have hkey : (readText (k ++ [Sign.quote] ++ rest)).map some = .ok (some (key, rest)) := by
    rw [List.append_assoc, List.singleton_append, readText_spelled hk]
    rfl
  have hne : Sign.quote ≠ Sign.objectClose := by decide
  cases hw with
  | first hw =>
    rw [nextKey, inQuotes, List.cons_append, skipSpace_blank_cons hw rfl]
    simp only [if_neg hne, if_true]
    exact hkey
  | comma hw hw' =>
    have hcomma : Sign.comma ≠ Sign.objectClose := by decide
    rw [nextKey, inQuotes, List.append_assoc, List.cons_append, List.cons_append, skipSpace_blank_cons hw rfl]
    simp only [if_neg hcomma, skipSpace_blank_cons hw' (b := Sign.quote) rfl, if_true]
    exact hkey

theorem skipColon_blank (hw : IsBlank w) (rest : Bytes) : skipColon (w ++ Sign.colon :: rest) = .ok rest := by
  rw [skipColon, skipSpace_blank_cons hw rfl]
  simp

/-- A member with another key leaves what has been read alone. -/
theorem readMember_other (hw : IsBlank w) (h : Spells (.value v) s) (hr : Stops rest) :
    readMember m none (w ++ (s ++ rest)) = .ok (m, rest) := by
  rw [readMember, skipValue_spelled h hw hr]
  rfl

theorem fits_toList {α : Type} (o : Option α) {value : α → Json} (h : ∀ a, f.Takes (value a)) :
    f.Fits (o.toList.map value) := by
  cases o with
  | none => exact .inl rfl
  | some a => exact .inr ⟨value a, rfl, h a⟩

theorem Members.said_fits (m : Members) (f : Field) : f.Fits (m.said f) := by
  cases f with
  | email => exact fits_toList m.email fun _ => trivial
  | fullName => exact fits_toList m.fullName fun _ => trivial
  | roles => exact fits_toList m.roles fun l => ⟨l, rfl⟩

/-- A value that fits to what is there is the first one for its member. -/
theorem Field.Fits.append_singleton {l : List Json} (h : f.Fits (l ++ [v])) : l = [] ∧ f.Takes v := by
  rcases h with hnil | ⟨v', hv, htakes⟩
  · exact absurd (List.append_eq_nil_iff.1 hnil).2 (List.cons_ne_nil _ _)
  · rcases List.append_eq_singleton_iff.1 hv with ⟨hl, hv⟩ | ⟨-, hv⟩
    · rw [List.singleton_inj.1 hv]
      exact ⟨hl, htakes⟩
    · cases hv

section Step

variable {key : String} {k w' w'' : Bytes} {fuel : Nat}

/-- A member is read if what it says fits to what is there. -/
theorem readMembers_step (hsep : Separator first w) (hk : SpellsChars k key.toList) (hw' : IsBlank w')
    (hw'' : IsBlank w'') (hv : Spells (.value v) s) (hr : Stops rest)
    (hfits : ∀ f : Field, f.Fits (m.said f ++ if key = f.name then [v] else [])) :
    ∃ m', readMembers (fuel + 1) first m (w ++ (inQuotes k ++ (w' ++ Sign.colon :: (w'' ++ (s ++ rest))))) =
        readMembers fuel false m' rest ∧
      ∀ f, m'.said f = m.said f ++ if key = f.name then [v] else [] := by
  rw [readMembers, nextKey_separator hsep hk]
  simp only [skipColon_blank hw']
  cases hf : field? key with
  | none =>
    refine ⟨m, ?_, fun f => ?_⟩
    · rw [readMember_other hw'' hv hr]
      rfl
    · rw [if_neg (Field.field?_eq_none.1 hf f), List.append_nil]
  | some f =>
    obtain rfl := Field.field?_eq_some.1 hf
    have hfit := hfits f
    rw [if_pos rfl] at hfit
    obtain ⟨hnew, htakes⟩ := hfit.append_singleton
    obtain ⟨m', hread, hsaid⟩ := readMember_spelled hw'' hv hnew htakes rest
    refine ⟨m', ?_, hsaid⟩
    rw [hread, Option.any_some, Members.has_eq_false.2 hnew]
    rfl

/-- A member given twice, or with a value of another form, is not read. -/
theorem readMembers_step_error (hsep : Separator first w) (hk : SpellsChars k key.toList) (hw' : IsBlank w')
    (hw'' : IsBlank w'') (hv : Spells (.value v) s) (hlegible : ∀ f : Field, key = f.name → f.Legible v)
    (hfits : ¬ ∀ f : Field, f.Fits (m.said f ++ if key = f.name then [v] else [])) (rest : Bytes) :
    ∃ e, readMembers (fuel + 1) first m (w ++ (inQuotes k ++ (w' ++ Sign.colon :: (w'' ++ (s ++ rest))))) =
      .error e := by
  rw [readMembers, nextKey_separator hsep hk]
  simp only [skipColon_blank hw']
  obtain ⟨f, hfit⟩ := not_forall.1 hfits
  have hkey : key = f.name := by
    by_contra hne
    rw [if_neg hne, List.append_nil] at hfit
    exact hfit (m.said_fits f)
  rw [if_pos hkey] at hfit
  rw [Field.field?_eq_some.2 hkey, Option.any_some]
  cases hhas : m.has f with
  | true => exact ⟨_, rfl⟩
  | false =>
    have hnew := Members.has_eq_false.1 hhas
    have htakes : ¬ f.Takes v := by
      intro htakes
      rw [hnew] at hfit
      exact hfit (.inr ⟨v, rfl, htakes⟩)
    obtain ⟨e, he⟩ := readMember_error hw'' hv (hlegible f hkey) htakes rest
    refine ⟨e, ?_⟩
    rw [he]
    rfl

end Step

/-- The members are read one by one: each adds what it says, unless that does not fit to what is there. -/
theorem readMembers_spelled {members : List (String × Json)} {fuel : Nat} (h : Spells (.members first members) s)
    (hlegible : Legible members) (hfuel : members.length < fuel) (m : Members) (rest : Bytes) :
    ((∀ f : Field, f.Fits (m.said f ++ given f.name members)) →
      ∃ m' r, Closes Sign.objectClose r rest ∧
        readMembers fuel first m (s ++ Sign.objectClose :: rest) = .ok (m', r) ∧
        ∀ f, m'.said f = m.said f ++ given f.name members) ∧
    ((¬ ∀ f : Field, f.Fits (m.said f ++ given f.name members)) →
      ∃ e, readMembers fuel first m (s ++ Sign.objectClose :: rest) = .error e) := by
  obtain ⟨fuel, rfl⟩ : ∃ n, fuel = n + 1 := ⟨fuel - 1, by omega⟩
  induction members generalizing first s m fuel with
  | nil =>
    have hnothing : ∀ f : Field, m.said f ++ given f.name [] = m.said f := fun f => List.append_nil _
    simp only [hnothing]
    refine ⟨fun _ => ?_, fun h => absurd m.said_fits h⟩
    cases h with
    | noMember hw =>
      have hclose : Closes Sign.objectClose (s ++ Sign.objectClose :: rest) rest := skipSpace_blank_cons hw rfl rest
      refine ⟨m, _, hclose, ?_, fun _ => rfl⟩
      rw [readMembers, nextKey, hclose]
      simp
  | cons p members ih =>
    obtain ⟨key, v⟩ := p
    cases h with
    | @member _ w k w' w'' s s' _ _ _ hsep hk hw' hw'' hv hmembers =>
      have hsplit : ∀ f : Field, m.said f ++ given f.name ((key, v) :: members) =
          (m.said f ++ if key = f.name then [v] else []) ++ given f.name members := by
        intro f
        rw [given_cons, List.append_assoc]
      have htext : w ++ (inQuotes k ++ (w' ++ Sign.colon :: (w'' ++ (s ++ s')))) ++ Sign.objectClose :: rest =
          w ++ (inQuotes k ++ (w' ++ Sign.colon :: (w'' ++ (s ++ (s' ++ Sign.objectClose :: rest))))) := by
        simp only [List.append_assoc, List.cons_append]
      simp only [hsplit, htext]
      by_cases hstep : ∀ f : Field, f.Fits (m.said f ++ if key = f.name then [v] else [])
      · obtain ⟨fuel, rfl⟩ : ∃ n, fuel = n + 1 := ⟨fuel - 1, by rw [List.length_cons] at hfuel; omega⟩
        obtain ⟨m', hread, hsaid⟩ := readMembers_step hsep hk hw' hw'' hv (stops_members hmembers rest) hstep
        have hmore := ih hmembers hlegible.of_cons m' fuel (Nat.lt_of_succ_lt_succ hfuel)
        simp only [hsaid] at hmore
        rw [hread]
        exact hmore
      · refine ⟨fun hfits => absurd (fun f => (hfits f).of_append) hstep, fun _ => ?_⟩
        exact readMembers_step_error hsep hk hw' hw'' hv hlegible.head hstep _

/-- There is text enough for as many rounds as there are members. -/
theorem length_le_of_spells {members : List (String × Json)} (h : Spells (.members first members) s) :
    members.length ≤ s.length := by
  induction members generalizing first s with
  | nil => exact Nat.zero_le _
  | cons p members ih =>
    cases h with
    | member _ _ _ _ _ hmembers =>
      have hlen := ih hmembers
      simp only [inQuotes, List.length_append, List.length_cons]
      omega

/-! ## Objects -/

section Object

variable {members : List (String × Json)} {text : Bytes} {u u' : User}

/-- What may be left out is told by what is given, too. -/
theorem eq_of_given {α : Type} {value : α → Json} (hvalue : Function.Injective value) {l : List Json} {a a' d : α}
    (h : l = [value a] ∨ l = [] ∧ a = d) (h' : l = [value a'] ∨ l = [] ∧ a' = d) : a = a' := by
  rcases h with h | ⟨h, hd⟩ <;> rcases h' with h' | ⟨h', hd'⟩
  · exact hvalue (List.singleton_inj.1 (h.symm.trans h'))
  · exact absurd (h.symm.trans h') (List.cons_ne_nil _ _)
  · exact absurd (h'.symm.trans h) (List.cons_ne_nil _ _)
  · exact hd.trans hd'.symm

theorem Tells.unique (h : Tells members u) (h' : Tells members u') : u = u' := by
  have htext : Function.Injective Json.text := fun _ _ he => Json.text.inj he
  have hlist : Function.Injective fun l : List String => Json.list (l.map .text) := fun _ _ he =>
    List.map_injective_iff.2 htext (Json.list.inj he)
  have hemail : u.email = u'.email := htext (List.singleton_inj.1 (h.email.symm.trans h'.email))
  have hname : u.fullName = u'.fullName := eq_of_given htext h.fullName h'.fullName
  have hroles : u.roles = u'.roles := eq_of_given hlist h.roles h'.roles
  cases u
  cases u'
  simp_all

/-- What a user is told by fits to the members. -/
theorem Tells.fits (h : Tells members u) (f : Field) : f.Fits (given f.name members) := by
  cases f with
  | email => exact .inr ⟨_, h.email, trivial⟩
  | fullName =>
    rcases h.fullName with hn | ⟨hn, -⟩
    · exact .inr ⟨_, hn, trivial⟩
    · exact .inl hn
  | roles =>
    rcases h.roles with hr | ⟨hr, -⟩
    · exact .inr ⟨_, hr, u.roles, rfl⟩
    · exact .inl hr

theorem tells_of_said {m : Members} {email : String} (hm : ∀ f, m.said f = given f.name members)
    (hemail : m.email = some email) : Tells members ⟨email, m.fullName.getD "", m.roles.getD []⟩ where
  email := by
    rw [← Field.name, ← hm .email, Members.said, hemail]
    rfl
  fullName := by
    rw [← Field.name, ← hm .fullName, Members.said]
    cases m.fullName with
    | none => exact .inr ⟨rfl, rfl⟩
    | some t => exact .inl rfl
  roles := by
    rw [← Field.name, ← hm .roles, Members.said]
    cases m.roles with
    | none => exact .inr ⟨rfl, rfl⟩
    | some l => exact .inl rfl

theorem readUser_objectOpen (hw : IsBlank w) (s : Bytes) : readUser (w ++ Sign.objectOpen :: s) = readObject s := by
  have hne : Sign.objectOpen ≠ Sign.listOpen := by decide
  rw [readUser, skipSpace_blank_cons hw rfl]
  simp only [if_neg hne, if_true]

/-- An object is read as the user that its members tell, or not at all. -/
theorem decode_object (hobject : ObjectText members text) (hlegible : Legible members) :
    (∃ u, Tells members u ∧ decode text = .ok u) ∨ (¬ ∃ u, Tells members u) ∧ ∃ e, decode text = .error e := by
  obtain ⟨w, s, w', hw, hs, hw', rfl⟩ := hobject
  have hfuel : members.length < (s ++ Sign.objectClose :: w').length + 1 := by
    have hlen := length_le_of_spells hs
    simp only [List.length_append]
    omega
  obtain ⟨hread, hfail⟩ := readMembers_spelled hs hlegible hfuel .none w'
  have hnone : ∀ f, Members.none.said f ++ given f.name members = given f.name members := by
    intro f
    cases f <;> rfl
  simp only [hnone] at hread hfail
  have hopen := readUser_objectOpen hw (s ++ Sign.objectClose :: w')
  rw [readObject] at hopen
  by_cases hfits : ∀ f : Field, f.Fits (given f.name members)
  · obtain ⟨m, r, hclose, hm, hsaid⟩ := hread hfits
    rw [hm] at hopen
    cases hemail : m.email with
    | none =>
      simp only [hemail] at hopen
      refine .inr ⟨?_, _, by rw [decode, hopen]⟩
      -- what is missing cannot have been told
      rintro ⟨u, hu⟩
      have hgiven : given "email" members = [] := by
        rw [← Field.name, ← hsaid .email, Members.said, hemail]
        rfl
      exact absurd (hgiven.symm.trans hu.email) (List.cons_ne_nil _ _).symm
    | some email =>
      refine .inl ⟨_, tells_of_said hsaid hemail, ?_⟩
      have hpast : pastObject r = w' := by
        rw [pastObject, hclose]
        simp
      have hspace : Sign.skipSpace w' = [] := by
        rw [← List.append_nil w', skipSpace_blank hw']
        rfl
      simp only [hemail, hpast] at hopen
      rw [decode, hopen]
      simp only [hspace]
  · obtain ⟨e, he⟩ := hfail hfits
    rw [he] at hopen
    refine .inr ⟨?_, e, by rw [decode, hopen]⟩
    rintro ⟨u, hu⟩
    exact hfits hu.fits

/-- What is read from an object is what its members tell. -/
theorem decode_eq_ok_iff (hobject : ObjectText members text) (hlegible : Legible members) :
    decode text = .ok u ↔ Tells members u := by
  rcases decode_object hobject hlegible with ⟨u', hu', hread⟩ | ⟨hnone, e, he⟩
  · rw [hread]
    constructor
    · rintro ⟨⟩
      exact hu'
    · intro hu
      rw [hu.unique hu']
  · rw [he]
    refine ⟨fun h => ?_, fun hu => absurd ⟨u, hu⟩ hnone⟩
    cases h

/-- Without a user to tell, an object is not read. -/
theorem exists_decode_error (hobject : ObjectText members text) (hlegible : Legible members)
    (hnone : ¬ ∃ u, Tells members u) : ∃ e, decode text = .error e := by
  rcases decode_object hobject hlegible with ⟨u, hu, -⟩ | ⟨-, he⟩
  · exact absurd ⟨u, hu⟩ hnone
  · exact he

theorem not_tells_of_ill_given
    (h : (∃ f : Field, 2 ≤ (given f.name members).length ∨ ∃ v ∈ given f.name members, ¬ f.Takes v) ∨
      given "email" members = []) : ¬ ∃ u, Tells members u := by
  rintro ⟨u, hu⟩
  rcases h with ⟨f, htwice | ⟨v, hv, htakes⟩⟩ | hmissing
  · rcases hu.fits f with hnil | ⟨v, hone, -⟩
    · rw [hnil] at htwice
      exact absurd htwice (by decide)
    · rw [hone] at htwice
      exact absurd htwice (Nat.not_succ_le_self 1)
  · rcases hu.fits f with hnil | ⟨v', hone, htakes'⟩
    · rw [hnil] at hv
      exact absurd hv List.not_mem_nil
    · rw [hone, List.mem_singleton] at hv
      exact htakes (hv ▸ htakes')
  · exact absurd (hmissing.symm.trans hu.email) (List.cons_ne_nil _ _).symm

/-! ## Members that matter -/

/-- The members that mean something to a user. -/
def known (members : List (String × Json)) : List (String × Json) :=
  members.filter fun p => (field? p.1).isSome

theorem given_known (f : Field) (members : List (String × Json)) :
    given f.name (known members) = given f.name members := by
  have hsame : ∀ p ∈ members, (decide (p.1 = f.name) && (field? p.1).isSome) = decide (p.1 = f.name) := by
    intro p _
    by_cases h : p.1 = f.name
    · simp [h, Field.field?_name]
    · simp [h]
  rw [given, known, List.filter_filter, List.filter_congr hsame, given]

/-- A user is told by the known members alone, in whatever order they come. -/
theorem Tells.of_perm {members' : List (String × Json)} (h : Tells members u)
    (hperm : (known members').Perm (known members)) : Tells members' u := by
  have hgiven : ∀ f : Field, (given f.name members').Perm (given f.name members) := by
    intro f
    rw [← given_known f members', ← given_known f members]
    exact (hperm.filter _).map _
  have hone : ∀ (f : Field) (v : Json), given f.name members = [v] → given f.name members' = [v] := by
    intro f v hv
    exact List.perm_singleton.1 (hv ▸ hgiven f)
  have hnil : ∀ f : Field, given f.name members = [] → given f.name members' = [] := by
    intro f hnil
    exact List.perm_nil.1 (hnil ▸ hgiven f)
  refine ⟨hone .email _ h.email, ?_, ?_⟩
  · exact h.fullName.imp (hone .fullName _) (And.imp_left (hnil .fullName))
  · exact h.roles.imp (hone .roles _) (And.imp_left (hnil .roles))

end Object

/-! ## Records that are written -/

/-- The members of a written record. -/
def membersOf (u : User) : List (String × Json) :=
  [("email", .text u.email), ("full_name", .text u.fullName), ("roles", .list (u.roles.map .text))]

/-- A written record is the text of an object with just the members of its user. -/
theorem objectText_encode (u : User) : ObjectText (membersOf u) (encode u) := by
  have hnone := isBlank_nil
  have hlast : Spells (.members false [("roles", .list (u.roles.map .text))]) _ :=
    .member (.comma hnone hnone) (spellsChars_written "roles") hnone hnone (spells_writeTexts u.roles)
      (.noMember hnone)
  have hmembers : Spells (.members true (membersOf u)) _ :=
    .member (.first hnone) (spellsChars_written "email") hnone hnone (spells_writeText u.email)
      (.member (.comma hnone hnone) (spellsChars_written "full_name") hnone hnone (spells_writeText u.fullName) hlast)
  refine ⟨[], _, [], hnone, hmembers, hnone, ?_⟩
  rw [← List.append_nil (encode u), encode_append]
  simp [inQuotes, writeText]

theorem tells_membersOf (u : User) : Tells (membersOf u) u := by
  constructor <;> simp [given, membersOf]

/-- A record may be laid out anew, with its members in another order and with others among them. -/
theorem decode_of_perm {members : List (String × Json)} {text : Bytes} {u : User} (hobject : ObjectText members text)
    (hlegible : Legible members) (hperm : (known members).Perm (known (membersOf u))) : decode text = .ok u :=
  (decode_eq_ok_iff hobject hlegible).2 ((tells_membersOf u).of_perm hperm)

end Roster.Record

namespace Roster.Embedded

open Record

/-- Reading an object depends on the three members of a user alone. It answers just the user whose email, full name
and roles are given, where a full name that is not given is empty and so are roles; a member that is given twice
or with a value of another form, or an email that is not given, is a failure of the store. So neither the order of
members, nor others among them, nor the layout of the text and the spelling of its strings change what is read. -/
theorem reading_depends_on_members {members : List (String × Json)} {text : Bytes} (hobject : ObjectText members text)
    (hlegible : Legible members) (key : String) :
    (∀ u, Operation.decodeUser key text = pure u ↔ Tells members u) ∧
    ((∃ f : Field, 2 ≤ (given f.name members).length ∨ ∃ v ∈ given f.name members, ¬ f.Takes v) ∨
        given "email" members = [] →
      ∃ message, Operation.decodeUser key text = .fail (.serialization key message)) ∧
    ∀ members' text', ObjectText members' text' → Legible members' → (known members').Perm (known members) →
      ∀ u, Operation.decodeUser key text' = pure u ↔ Operation.decodeUser key text = pure u := by
  have hread : ∀ {members text}, ObjectText members text → Legible members →
      ∀ u, Operation.decodeUser key text = pure u ↔ Tells members u := by
    intro members text hobject hlegible u
    rw [← decode_eq_ok_iff hobject hlegible, Operation.decodeUser]
    cases decode text with
    | ok u' => exact ⟨fun h => congrArg _ (Script.done.inj h), fun h => congrArg _ (Except.ok.inj h)⟩
    | error e =>
      constructor
      · intro h
        cases h
      · intro h
        cases h
  refine ⟨hread hobject hlegible, fun hill => ?_, fun members' text' hobject' hlegible' hperm u => ?_⟩
  · obtain ⟨e, he⟩ := exists_decode_error hobject hlegible (not_tells_of_ill_given hill)
    exact ⟨e.message text, by rw [Operation.decodeUser, he]⟩
  · rw [hread hobject' hlegible', hread hobject hlegible]
    exact ⟨fun h => h.of_perm hperm.symm, fun h => h.of_perm hperm⟩

/-- For instance an object in which another comes first that has an email too, and with a key that is spelled with
the number of a letter. -/
theorem reading_depends_on_members_of_odd_text :
    let members : List (String × Json) :=
      [("x", .object [("email", .list [.number, .text "\x7d"])]), ("email", .text "a\n"), ("roles", .list [.text "b"])]
    let text := utf8 " \x7b\"x\":\x7b\"email\":[-1.5e3,\"\x7d\"]\x7d , \"\\u0065mail\" :\"a\\n\",\"roles\":[\"b\"]\x7d"
    ObjectText members text ∧ Legible members ∧ Operation.decodeUser "k" text = pure ⟨"a\n", "", ["b"]⟩ := by
  intro members text
  have hnone := isBlank_nil
  have hone : IsBlank [0x20] := by decide
  -- the value of the other member
  have hnumber : Spells (.value .number) (utf8 "-1.5e3") :=
    .number (.parts (.inr rfl) (.digits (b := 0x31) (s := []) rfl (by decide) (by decide))
      (.digits (s := [0x35]) (by decide) (by decide)) (.digits (s := [0x33]) (.inl rfl) (.inl rfl) (by decide) (by decide)))
  have hlist : Spells (.value (.list [.number, .text "\x7d"])) (utf8 "[-1.5e3,\"\x7d\"]") :=
    .list (.item (.first hnone) hnumber
      (.item (.comma hnone hnone) (.text (spellsChars_plain (by decide))) (.noItem hnone)))
  have hinner : Spells (.value (.object [("email", .list [.number, .text "\x7d"])]))
      (utf8 "\x7b\"email\":[-1.5e3,\"\x7d\"]\x7d") :=
    .object (.member (.first hnone) (spellsChars_plain (by decide)) hnone hnone hlist (.noMember hnone))
  have hkey : SpellsChars (utf8 "\\u0065mail") "email".toList := by
    have hfour : FourHex (utf8 "0065") 'e'.toNat :=
      .digits (k := 0) (l := 0) (m := 6) (n := 5) (by decide) (by decide) (by decide) (by decide)
    exact .numbered hfour (spellsChars_plain (t := "mail") (by decide))
  have hemail : SpellsChars (utf8 "a\\n") "a\n".toList :=
    .plain (c := 'a') (by decide) (.short (x := Sign.letterN) (by decide) .nil)
  have hroles : Spells (.value (.list [.text "b"])) (utf8 "[\"b\"]") :=
    .list (.item (.first hnone) (.text (spellsChars_plain (by decide))) (.noItem hnone))
  have hmembers : Spells (.members true members)
      (utf8 "\"x\":\x7b\"email\":[-1.5e3,\"\x7d\"]\x7d , \"\\u0065mail\" :\"a\\n\",\"roles\":[\"b\"]") :=
    .member (.first hnone) (spellsChars_plain (by decide)) hnone hnone hinner
      (.member (.comma hone hone) hkey hone hnone (.text hemail)
        (.member (.comma hnone hnone) (spellsChars_plain (by decide)) hnone hnone hroles (.noMember hnone)))
  have hobject : ObjectText members text := ⟨[0x20], _, [], hone, hmembers, hnone, rfl⟩
  have hlegible : Legible members := by
    intro f
    cases f <;> simp [members, given, Field.name, Field.Legible]
  have htells : Tells members ⟨"a\n", "", ["b"]⟩ := by
    constructor <;> simp [members, given]
  exact ⟨hobject, hlegible, ((reading_depends_on_members hobject hlegible "k").1 _).2 htells⟩

end Roster.Embedded
