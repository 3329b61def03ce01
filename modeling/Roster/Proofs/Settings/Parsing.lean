import Roster.Proofs.Toml.Keys
import Roster.Settings.Config

/-!
# Configurations field by field

A configuration is the default one, with the fields replaced for which the document has a value. Which
these are is a matter of what stands in the tables, not of where it stands or of what else does, because
no key is there twice. A value of another type is never passed over for the default, and a number is
either kept as it is or refused. A field that is missing in a table and a table that is missing have their
defaults from different places, which agree.
-/

namespace Roster.Settings

open Toml (Item)

/-! ## What a document gives -/

/-- The tables that a configuration is read from. -/
inductive Part where
  | store
  | logging

def Part.name : Part → String
  | store => "store"
  | logging => "logging"

def Part.fields : Part → List String
  | store => storeFields
  | logging => logFields

theorem Part.nodup_fields (part : Part) : part.fields.Nodup := by
  cases part <;> decide +kernel

/-- The entries that an item stands for as a table with such fields: a table has its own, a list has items
for the first fields in turn, and a date has none. -/
def entries? (fields : List String) : Item → Option Toml.Entries
  | .inline _ es | .table _ es => some es
  | .list l => some (fields.zip l)
  | .tables l => some (fields.zip (l.map (.table .header)))
  | .moment => some []
  | _ => none

/-- The document has an item under a key of a table, whatever comes before and after it. -/
def Given (es : Toml.Entries) (part : Part) (key : String) (item : Item) : Prop :=
  ∃ whole sub, (part.name, whole) ∈ es ∧ entries? part.fields whole = some sub ∧ (key, item) ∈ sub

/-- What stands under the name of a table, if anything, is one. -/
def IsTable (es : Toml.Entries) (part : Part) : Prop :=
  ∀ whole, (part.name, whole) ∈ es → ∃ sub, entries? part.fields whole = some sub

/-- The item that is looked up under a key of a table. -/
def fieldAt? (es : Toml.Entries) (part : Part) (key : String) : Option Item :=
  ((es.find? part.name).bind (entries? part.fields)).bind (·.find? key)

variable {es : Toml.Entries} {part : Part} {key : String} {item : Item} {α : Type}

theorem proper_zip {fields : List String} (hfields : fields.Nodup) {l : List Item}
    (hl : ∀ item ∈ l, item.Proper) : Toml.Entries.Proper (fields.zip l) := by
  refine .intro ?_ fun _ he => hl _ (List.of_mem_zip he).2
  rw [List.zip_eq_zip_take_min]
  refine List.Nodup.sublist ?_ hfields
  rw [List.map_fst_zip (by simp)]
  exact List.take_sublist ..

/-- In a list the items for the fields are found by their places. -/
theorem find?_zip {fields : List String} (hfields : fields.Nodup) {l : List Item} {i : Nat}
    (hi : i < fields.length) : Toml.Entries.find? (fields.zip l) fields[i] = l[i]? := by
  induction fields generalizing l i with
  | nil => cases hi
  | cons name fields ih =>
    obtain ⟨hname, hfields⟩ := List.nodup_cons.1 hfields
    cases l with
    | nil => rfl
    | cons item l =>
      cases i with
      | zero => simp [Toml.Entries.find?]
      | succ i =>
        have hi := Nat.lt_of_succ_lt_succ hi
        have hne : (fields[i] == name) = false :=
          beq_eq_false_iff_ne.2 fun he => hname (he ▸ List.getElem_mem hi)
        simpa [Toml.Entries.find?, List.lookup_cons, hne] using ih hfields hi

theorem proper_of_entries {sub : Toml.Entries} (h : item.Proper)
    (hsub : entries? part.fields item = some sub) : sub.Proper := by
  cases h with
  | inline hproper | table hproper =>
    cases hsub
    exact hproper
  | list hl =>
    cases hsub
    exact proper_zip part.nodup_fields hl
  | tables hl =>
    cases hsub
    exact proper_zip part.nodup_fields (List.forall_mem_map.2 fun es hes => .table (hl es hes))
  | moment =>
    cases hsub
    exact .nil
  | _ => cases hsub

/-- The fields of an item are those that its entries have under their names. -/
theorem fieldsOf?_eq (part : Part) (item : Item) :
    fieldsOf? part.fields item = (entries? part.fields item).map fun sub => part.fields.map sub.find? := by
  have hzip {l : List Item} {item? : String × Nat → Option Item} (hitem : ∀ name i, item? (name, i) = l[i]?) :
      part.fields.zipIdx.map item? = part.fields.map (Toml.Entries.find? (part.fields.zip l)) := by
    refine List.ext_getElem (by simp) fun i hi hi' => ?_
    simp [hitem, find?_zip part.nodup_fields]
  cases item with
  | list l => exact congrArg some (hzip fun _ _ => rfl)
  | tables l => exact congrArg some (hzip fun _ _ => List.getElem?_map.symm)
  | _ => rfl

/-- What is looked up is what is given. -/
theorem fieldAt?_eq_some (hes : es.Proper) :
    fieldAt? es part key = some item ↔ Given es part key item := by
  constructor
  · intro h
    obtain ⟨sub, hsub, hitem⟩ := Option.bind_eq_some_iff.1 h
    obtain ⟨whole, hwhole, hsub⟩ := Option.bind_eq_some_iff.1 hsub
    exact ⟨whole, sub, Toml.Entries.mem_of_find hwhole, hsub, Toml.Entries.mem_of_find hitem⟩
  · rintro ⟨whole, sub, hwhole, hsub, hitem⟩
    have hproper := proper_of_entries (hes.items _ hwhole) hsub
    rw [fieldAt?, hes.find_iff.2 hwhole, Option.bind_some, hsub, Option.bind_some, hproper.find_iff.2 hitem]

theorem fieldAt?_eq_none (hes : es.Proper) :
    fieldAt? es part key = none ↔ ∀ item, ¬ Given es part key item := by
  rw [Option.eq_none_iff_forall_ne_some]
  exact forall_congr' fun item => not_congr (fieldAt?_eq_some hes)

/-- There is one item at most, because no key is there twice. -/
theorem given_unique {item' : Item} (hes : es.Proper) (h : Given es part key item)
    (h' : Given es part key item') : item' = item := by
  rw [← fieldAt?_eq_some hes] at h h'
  exact Option.some.inj (h'.symm.trans h)

theorem proper_of_given (hes : es.Proper) (h : Given es part key item) : item.Proper := by
  obtain ⟨whole, sub, hwhole, hsub, hitem⟩ := h
  exact (proper_of_entries (hes.items _ hwhole) hsub).items _ hitem

/-! ## Fields -/

/-- The value of a field is the one that the document gives for it, or the default if it gives none. -/
def Taken (es : Toml.Entries) (part : Part) (key : String) (reads : Item → α → Prop) (default v : α) : Prop :=
  (∃ item, Given es part key item ∧ reads item v) ∨ ((∀ item, ¬ Given es part key item) ∧ v = default)

/-- What the document gives for a field, if anything, is a value for it. -/
def Readable (es : Toml.Entries) (part : Part) (key : String) (reads : Item → α → Prop) : Prop :=
  ∀ item, Given es part key item → ∃ v, reads item v

/-- The reader of a field reads from proper items what they stand for, and nothing else. -/
def Reads (read? : Item → Option α) (reads : Item → α → Prop) : Prop :=
  ∀ item v, item.Proper → (read? item = some v ↔ reads item v)

theorem valueOr?_iff {read? : Item → Option α} {reads : Item → α → Prop} {default v : α}
    (hes : es.Proper) (hread : Reads read? reads) :
    valueOr? read? default (fieldAt? es part key) = some v ↔ Taken es part key reads default v := by
  cases hfield : fieldAt? es part key with
  | none =>
    have hnone := (fieldAt?_eq_none hes).1 hfield
    simp [valueOr?, Taken, hnone, eq_comm]
  | some item =>
    have hgiven := (fieldAt?_eq_some hes).1 hfield
    rw [valueOr?, hread item v (proper_of_given hes hgiven)]
    constructor
    · exact fun h => .inl ⟨item, hgiven, h⟩
    · rintro (⟨item', hgiven', h⟩ | ⟨hnone, -⟩)
      · exact given_unique hes hgiven hgiven' ▸ h
      · exact absurd hgiven (hnone item)

/-- A field has a value exactly if what is given for it is one. -/
theorem exists_taken {reads : Item → α → Prop} (hes : es.Proper) (default : α) :
    (∃ v, Taken es part key reads default v) ↔ Readable es part key reads := by
  constructor
  · rintro ⟨v, ⟨item, hgiven, h⟩ | ⟨hnone, -⟩⟩ item' hgiven'
    · exact ⟨v, given_unique hes hgiven hgiven' ▸ h⟩
    · exact absurd hgiven' (hnone item')
  · intro h
    by_cases hany : ∃ item, Given es part key item
    · obtain ⟨item, hgiven⟩ := hany
      obtain ⟨v, hv⟩ := h item hgiven
      exact ⟨v, .inl ⟨item, hgiven, hv⟩⟩
    · exact ⟨default, .inr ⟨not_exists.1 hany, rfl⟩⟩

/-! ## Values -/

def IsText (item : Item) (s : String) : Prop := item = .text s

/-- A bound on connections fits 32 bits without a sign. -/
def IsBound (item : Item) (n : Nat) : Prop := item = .integer n ∧ n < Nat.pow 2 32

def IsSeconds (item : Item) (n : Nat) : Prop := item = .integer n

def IsFlag (item : Item) (b : Bool) : Prop := item = .boolean b

/-- A format is given by its name, or by a table with nothing but that name, under which is nothing. -/
def IsFormat (item : Item) (format : LogFormat) : Prop :=
  item = .text format.name ∨ ∃ bare, isBare bare = true ∧
    ((∃ dotted, item = .inline dotted [(format.name, bare)]) ∨
      ∃ origin, item = .table origin [(format.name, bare)])

def IsFilter (item : Item) (filter : Option String) : Prop := ∃ s, item = .text s ∧ filter = some s

theorem reads_text : Reads readText? IsText := by
  intro item v _
  cases item <;> simp [readText?, IsText]

theorem reads_flag : Reads readBool? IsFlag := by
  intro item v _
  cases item <;> simp [readBool?, IsFlag]

theorem reads_filter : Reads readFilter? IsFilter := by
  intro item v _
  cases item <;> simp [readFilter?, readText?, IsFilter, eq_comm]

theorem readNat?_integer {limit v : Nat} {n : Int} :
    readNat? limit (.integer n) = some v ↔ n = v ∧ v < limit := by
  rw [readNat?]
  split
  · simp only [Option.some.injEq]
    omega
  · simp only [reduceCtorEq, false_iff]
    omega

theorem reads_bound : Reads readBound? IsBound := by
  intro item v _
  cases item with
  | integer n => rw [readBound?, readNat?_integer, IsBound, Item.integer.injEq]
  | _ => simp [readBound?, readNat?, IsBound]

/-- All integers of a document that are not negative fit a number of seconds. -/
theorem reads_seconds : Reads readSeconds? IsSeconds := by
  intro item v h
  cases h with
  | integer hfits =>
    rename_i n
    rw [readSeconds?, readNat?_integer, IsSeconds, Item.integer.injEq]
    simp only [Toml.fits, Bool.and_eq_true, decide_eq_true_eq] at hfits
    have : ((Nat.pow 2 63 : Nat) : Int) = 9223372036854775808 := rfl
    have : Nat.pow 2 64 = 18446744073709551616 := rfl
    omega
  | _ => simp [readSeconds?, readNat?, IsSeconds]

theorem ofName?_eq_some {s : String} {format : LogFormat} :
    LogFormat.ofName? s = some format ↔ s = format.name := by
  constructor
  · intro h
    have := List.find?_some h
    simpa using (of_decide_eq_true this).symm
  · rintro rfl
    cases format <;> decide

theorem reads_format : Reads readFormat? IsFormat := by
  intro item v _
  constructor
  · intro h
    unfold readFormat? at h
    split at h
    · exact .inl (congrArg _ (ofName?_eq_some.1 h))
    · split at h
      · exact .inr ⟨_, ‹_›, .inl ⟨_, by rw [ofName?_eq_some.1 h]⟩⟩
      · cases h
    · split at h
      · exact .inr ⟨_, ‹_›, .inr ⟨_, by rw [ofName?_eq_some.1 h]⟩⟩
      · cases h
    · cases h
  · rintro (rfl | ⟨bare, hbare, ⟨_, rfl⟩ | ⟨_, rfl⟩⟩)
    · exact ofName?_eq_some.2 rfl
    · rw [readFormat?, if_pos hbare, ofName?_eq_some.2 rfl]
    · rw [readFormat?, if_pos hbare, ofName?_eq_some.2 rfl]

/-! ## Tables -/

theorem fieldAt?_of_none (h : es.find? part.name = none) (key : String) : fieldAt? es part key = none := by
  rw [fieldAt?, h, Option.bind_none, Option.bind_none]

theorem fieldAt?_of_entries {whole : Item} {sub : Toml.Entries} (h : es.find? part.name = some whole)
    (hsub : entries? part.fields whole = some sub) (key : String) : fieldAt? es part key = sub.find? key := by
  rw [fieldAt?, h, Option.bind_some, hsub, Option.bind_some]

theorem isTable_of_none (h : es.find? part.name = none) : IsTable es part :=
  fun whole hmem => absurd hmem (Toml.Entries.find_eq_none.1 h whole)

theorem isTable_iff {whole : Item} (hes : es.Proper) (h : es.find? part.name = some whole) :
    IsTable es part ↔ ∃ sub, entries? part.fields whole = some sub := by
  constructor
  · exact fun htable => htable whole (Toml.Entries.mem_of_find h)
  · rintro hsub whole' hmem
    rw [hes.find_iff.2 hmem] at h
    exact Option.some.inj h ▸ hsub

/-- The settings of the store are read field by field, whether or not there is a table of them. -/
theorem readStore?_iff {s : StoreSettings} (hes : es.Proper) :
    valueOr? readStore? .default (es.find? Part.store.name) = some s ↔ IsTable es .store ∧
      valueOr? readText? defaultUrl (fieldAt? es .store "url") = some s.url ∧
      valueOr? readBound? defaultMaxConnections (fieldAt? es .store "max_connections") = some s.maxConnections ∧
      valueOr? readBound? defaultMinConnections (fieldAt? es .store "min_connections") = some s.minConnections ∧
      valueOr? readSeconds? defaultConnectTimeout (fieldAt? es .store "connect_timeout_secs") =
        some s.connectTimeout ∧
      valueOr? readSeconds? defaultIdleTimeout (fieldAt? es .store "idle_timeout_secs") = some s.idleTimeout ∧
      valueOr? readSeconds? defaultMaxLifetime (fieldAt? es .store "max_lifetime_secs") = some s.maxLifetime ∧
      valueOr? readSeconds? defaultAcquireTimeout (fieldAt? es .store "acquire_timeout_secs") =
        some s.acquireTimeout ∧
      valueOr? readBool? false (fieldAt? es .store "sqlx_logging") = some s.statementLogging := by
  cases hfind : es.find? Part.store.name with
  | none =>
    simp only [fieldAt?_of_none hfind, isTable_of_none hfind, valueOr?, Option.some.injEq, true_and]
    cases s
    simp [StoreSettings.default]
  | some whole =>
    have hfields : fieldsOf? storeFields whole = _ := fieldsOf?_eq .store whole
    rw [isTable_iff hes hfind, valueOr?, readStore?, hfields]
    cases hsub : entries? Part.store.fields whole with
    | none => simp
    | some sub =>
      simp only [fieldAt?_of_entries hfind hsub, Part.fields, storeFields, List.map_cons, List.map_nil,
        Option.map_some, Option.bind_eq_bind, Option.bind_some, Option.bind_eq_some_iff, Option.pure_def,
        Option.some.injEq]
      constructor
      · rintro ⟨_, h₁, _, h₂, _, h₃, _, h₄, _, h₅, _, h₆, _, h₇, _, h₈, rfl⟩
        exact ⟨⟨sub, rfl⟩, h₁, h₂, h₃, h₄, h₅, h₆, h₇, h₈⟩
      · rintro ⟨-, h₁, h₂, h₃, h₄, h₅, h₆, h₇, h₈⟩
        exact ⟨_, h₁, _, h₂, _, h₃, _, h₄, _, h₅, _, h₆, _, h₇, _, h₈, rfl⟩

/-- The settings of the log are, too. -/
theorem readLogging?_iff {l : LogSettings} (hes : es.Proper) :
    valueOr? readLogging? .default (es.find? Part.logging.name) = some l ↔ IsTable es .logging ∧
      valueOr? readFormat? .default (fieldAt? es .logging "format") = some l.format ∧
      valueOr? readFilter? none (fieldAt? es .logging "filter") = some l.filter := by
  cases hfind : es.find? Part.logging.name with
  | none =>
    simp only [fieldAt?_of_none hfind, isTable_of_none hfind, valueOr?, Option.some.injEq, true_and]
    cases l
    simp [LogSettings.default]
  | some whole =>
    have hfields : fieldsOf? logFields whole = _ := fieldsOf?_eq .logging whole
    rw [isTable_iff hes hfind, valueOr?, readLogging?, hfields]
    cases hsub : entries? Part.logging.fields whole with
    | none => simp
    | some sub =>
      simp only [fieldAt?_of_entries hfind hsub, Part.fields, logFields, List.map_cons, List.map_nil,
        Option.map_some, Option.bind_eq_bind, Option.bind_some, Option.bind_eq_some_iff, Option.pure_def,
        Option.some.injEq]
      constructor
      · rintro ⟨_, h₁, _, h₂, rfl⟩
        exact ⟨⟨sub, rfl⟩, h₁, h₂⟩
      · rintro ⟨-, h₁, h₂⟩
        exact ⟨_, h₁, _, h₂, rfl⟩

/-! ## Configurations -/

namespace Config

/-- The configuration is the default one with every field replaced that the document gives, and no
other. -/
structure Overrides (es : Toml.Entries) (c : Config) : Prop where
  url : Taken es .store "url" IsText Config.default.store.url c.store.url
  maxConnections :
    Taken es .store "max_connections" IsBound Config.default.store.maxConnections c.store.maxConnections
  minConnections :
    Taken es .store "min_connections" IsBound Config.default.store.minConnections c.store.minConnections
  connectTimeout :
    Taken es .store "connect_timeout_secs" IsSeconds Config.default.store.connectTimeout c.store.connectTimeout
  idleTimeout :
    Taken es .store "idle_timeout_secs" IsSeconds Config.default.store.idleTimeout c.store.idleTimeout
  maxLifetime :
    Taken es .store "max_lifetime_secs" IsSeconds Config.default.store.maxLifetime c.store.maxLifetime
  acquireTimeout :
    Taken es .store "acquire_timeout_secs" IsSeconds Config.default.store.acquireTimeout c.store.acquireTimeout
  statementLogging :
    Taken es .store "sqlx_logging" IsFlag Config.default.store.statementLogging c.store.statementLogging
  format : Taken es .logging "format" IsFormat Config.default.logging.format c.logging.format
  filter : Taken es .logging "filter" IsFilter Config.default.logging.filter c.logging.filter

/-- The tables are tables, as far as they are there, and whatever the document gives for a field is of its
type and within its range. -/
structure WellTyped (es : Toml.Entries) : Prop where
  store : IsTable es .store
  logging : IsTable es .logging
  url : Readable es .store "url" IsText
  maxConnections : Readable es .store "max_connections" IsBound
  minConnections : Readable es .store "min_connections" IsBound
  connectTimeout : Readable es .store "connect_timeout_secs" IsSeconds
  idleTimeout : Readable es .store "idle_timeout_secs" IsSeconds
  maxLifetime : Readable es .store "max_lifetime_secs" IsSeconds
  acquireTimeout : Readable es .store "acquire_timeout_secs" IsSeconds
  statementLogging : Readable es .store "sqlx_logging" IsFlag
  format : Readable es .logging "format" IsFormat
  filter : Readable es .logging "filter" IsFilter

variable {c : Config}

theorem ofEntries?_iff (hes : es.Proper) :
    ofEntries? es = some c ↔ (IsTable es .store ∧ IsTable es .logging) ∧ Overrides es c := by
  have hparts : ofEntries? es = some c ↔
      valueOr? readStore? .default (es.find? Part.store.name) = some c.store ∧
        valueOr? readLogging? .default (es.find? Part.logging.name) = some c.logging := by
    simp only [ofEntries?, Part.name, Option.bind_eq_bind, Option.bind_eq_some_iff, Option.pure_def,
      Option.some.injEq]
    constructor
    · rintro ⟨_, h₁, _, h₂, rfl⟩
      exact ⟨h₁, h₂⟩
    · rintro ⟨h₁, h₂⟩
      exact ⟨_, h₁, _, h₂, rfl⟩
  rw [hparts, readStore?_iff hes, readLogging?_iff hes]
  simp only [valueOr?_iff hes reads_text, valueOr?_iff hes reads_bound, valueOr?_iff hes reads_seconds,
    valueOr?_iff hes reads_flag, valueOr?_iff hes reads_format, valueOr?_iff hes reads_filter]
  constructor
  · rintro ⟨⟨hstore, h₁, h₂, h₃, h₄, h₅, h₆, h₇, h₈⟩, hlogging, h₉, h₁₀⟩
    exact ⟨⟨hstore, hlogging⟩, h₁, h₂, h₃, h₄, h₅, h₆, h₇, h₈, h₉, h₁₀⟩
  · rintro ⟨⟨hstore, hlogging⟩, h₁, h₂, h₃, h₄, h₅, h₆, h₇, h₈, h₉, h₁₀⟩
    exact ⟨⟨hstore, h₁, h₂, h₃, h₄, h₅, h₆, h₇, h₈⟩, hlogging, h₉, h₁₀⟩

/-- The default one can be overridden exactly by what is of the right types. -/
theorem exists_overrides (hes : es.Proper) :
    (∃ c, (IsTable es .store ∧ IsTable es .logging) ∧ Overrides es c) ↔ WellTyped es := by
  constructor
  · rintro ⟨c, ⟨hstore, hlogging⟩, h₁, h₂, h₃, h₄, h₅, h₆, h₇, h₈, h₉, h₁₀⟩
    exact ⟨hstore, hlogging, (exists_taken hes _).1 ⟨_, h₁⟩, (exists_taken hes _).1 ⟨_, h₂⟩,
      (exists_taken hes _).1 ⟨_, h₃⟩, (exists_taken hes _).1 ⟨_, h₄⟩, (exists_taken hes _).1 ⟨_, h₅⟩,
      (exists_taken hes _).1 ⟨_, h₆⟩, (exists_taken hes _).1 ⟨_, h₇⟩, (exists_taken hes _).1 ⟨_, h₈⟩,
      (exists_taken hes _).1 ⟨_, h₉⟩, (exists_taken hes _).1 ⟨_, h₁₀⟩⟩
  · rintro ⟨hstore, hlogging, h₁, h₂, h₃, h₄, h₅, h₆, h₇, h₈, h₉, h₁₀⟩
    obtain ⟨_, h₁⟩ := (exists_taken hes _).2 h₁
    obtain ⟨_, h₂⟩ := (exists_taken hes _).2 h₂
    obtain ⟨_, h₃⟩ := (exists_taken hes _).2 h₃
    obtain ⟨_, h₄⟩ := (exists_taken hes _).2 h₄
    obtain ⟨_, h₅⟩ := (exists_taken hes _).2 h₅
    obtain ⟨_, h₆⟩ := (exists_taken hes _).2 h₆
    obtain ⟨_, h₇⟩ := (exists_taken hes _).2 h₇
    obtain ⟨_, h₈⟩ := (exists_taken hes _).2 h₈
    obtain ⟨_, h₉⟩ := (exists_taken hes _).2 h₉
    obtain ⟨_, h₁₀⟩ := (exists_taken hes _).2 h₁₀
    exact ⟨⟨⟨_, _, _, _, _, _, _, _⟩, ⟨_, _⟩⟩, ⟨hstore, hlogging⟩, h₁, h₂, h₃, h₄, h₅, h₆, h₇, h₈, h₉, h₁₀⟩

/-- There is a configuration in a document if and only if everything that the document gives for a field is
of its type and within its range, and it is the default one with exactly these fields replaced. -/
theorem parse_of_any_document {document : String} (hread : Toml.read? document = some es) :
    ((∃ c, parse? document = some c) ↔ WellTyped es) ∧
      ∀ c, parse? document = some c ↔ WellTyped es ∧ Overrides es c := by
  have hes := Toml.proper_of_read hread
  have hparse (c : Config) :
      parse? document = some c ↔ (IsTable es .store ∧ IsTable es .logging) ∧ Overrides es c := by
    rw [parse?, hread, Option.bind_some, ofEntries?_iff hes]
  have htyped : (∃ c, parse? document = some c) ↔ WellTyped es := by
    rw [← exists_overrides hes]
    exact exists_congr hparse
  refine ⟨htyped, fun c => ⟨fun h => ⟨htyped.1 ⟨c, h⟩, ((hparse c).1 h).2⟩, ?_⟩⟩
  rintro ⟨h, hover⟩
  exact (hparse c).2 ⟨⟨h.store, h.logging⟩, hover⟩

/-- A document with a line for the log, a table that nobody asks for, and settings out of order among
others; and three with a number out of range or no table. -/
theorem parse_of_scattered_lines :
    let scattered := "logging.filter = \"info\"\n[a.b]\nurl = 1\n" ++
      "[store]\nmin_connections = 3\nc = 1.5\nurl = \"sqlite:x\""
    let given : Config :=
      ⟨{ StoreSettings.default with minConnections := 3, url := "sqlite:x" }, ⟨.compact, some "info"⟩⟩
    let refused := ["[store]\nmax_connections = 4_294_967_296", "store.idle_timeout_secs = -1", "logging = 0"]
    (∃ es, Toml.read? scattered = some es ∧ WellTyped es ∧ Overrides es given) ∧
      ∀ document ∈ refused, ∃ es, Toml.read? document = some es ∧ ¬ WellTyped es := by
  intro scattered given refused
  refine ⟨?_, fun document hdocument => ?_⟩
  · have hgiven : parse? scattered = some given := by decide +kernel
    obtain ⟨es, hread, -⟩ := Option.bind_eq_some_iff.1 hgiven
    exact ⟨es, hread, ((parse_of_any_document hread).2 given).1 hgiven⟩
  · have hrefused : ∀ document ∈ refused, (Toml.read? document).isSome = true ∧ parse? document = none := by
      decide +kernel
    obtain ⟨hvalid, hnone⟩ := hrefused document hdocument
    obtain ⟨es, hread⟩ := Option.isSome_iff_exists.1 hvalid
    refine ⟨es, hread, fun htyped => ?_⟩
    obtain ⟨c, hc⟩ := (parse_of_any_document hread).1.2 htyped
    rw [hnone] at hc
    cases hc

end Config

end Roster.Settings
