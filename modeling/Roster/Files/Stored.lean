import Roster.Files.Tree

/-!
# Contents as bytes

How the content of a store's file is kept. A content is a sequence of fields, each with a zero
behind it, so zeros inside a field are written with an escape; the first field is a mark that says
what follows. A file that begins with a mark and can be read is the content of a store, and every
other file is just its bytes.

`fieldsOf?_fields`: what is read from fields are those fields.
-/

namespace Roster.Files

namespace Stored

/-! ## Fields -/

/-- A byte inside a field: zero and one are written with a one in front. -/
def escaped (b : UInt8) : Bytes := if b = 0 then [1, 1] else if b = 1 then [1, 2] else [b]

/-- A field with its end. -/
def field (b : Bytes) : Bytes := b.flatMap escaped ++ [0]

/-- Fields one after another. -/
def fields (l : List Bytes) : Bytes := l.flatMap field

/-- Reads fields up to the end; `start` is what the first of them begins with, backwards. -/
def readFields? : (start : Bytes) → Bytes → Option (List Bytes)
  | start, [] => if start.isEmpty then some [] else none
  | start, 1 :: b :: rest =>
    if b = 1 then readFields? (0 :: start) rest
    else if b = 2 then readFields? (1 :: start) rest
    else none
  | start, b :: rest =>
    if b = 0 then (readFields? [] rest).map (start.reverse :: ·)
    else if b = 1 then none
    else readFields? (b :: start) rest

/-- The fields in bytes. -/
def fieldsOf? (b : Bytes) : Option (List Bytes) := readFields? [] b

theorem readFields?_escaped (start : Bytes) (b : UInt8) (rest : Bytes) :
    readFields? start (escaped b ++ rest) = readFields? (b :: start) rest := by
  unfold escaped
  split
  · subst b; simp [readFields?]
  · split
    · subst b; simp [readFields?]
    · rename_i h0 h1
      rw [List.singleton_append, readFields?]
      · rw [if_neg h0, if_neg h1]
      · simp [h1]

theorem readFields?_field (start b rest : Bytes) :
    readFields? start (field b ++ rest) =
      (readFields? [] rest).map ((start.reverse ++ b) :: ·) := by
  induction b generalizing start with
  | nil => simp [field, readFields?]
  | cons x b ih =>
    have h : field (x :: b) ++ rest = escaped x ++ (field b ++ rest) := by simp [field]
    rw [h, readFields?_escaped, ih]
    simp

theorem fieldsOf?_fields (l : List Bytes) : fieldsOf? (fields l) = some l := by
  induction l with
  | nil => rfl
  | cons b l ih =>
    have h : readFields? [] (fields l) = some l := ih
    rw [fieldsOf?, fields, List.flatMap_cons, readFields?_field]
    simpa [fields] using h

/-- The entries of a list in pairs; none if one is left over. -/
def pairs? {α : Type} : List α → Option (List (α × α))
  | [] => some []
  | a :: b :: l => do return (a, b) :: (← pairs? l)
  | [_] => none

/-! ## The file of the embedded store -/

/-- The mark of the embedded store. -/
def embeddedMark : Bytes := utf8 "roster embedded 1"

/-- A table: no bytes if it is missing, a sign if it is of another kind, and otherwise a sign and
its rows. -/
def slot {κ : Type} [KeyOrder κ] (key : κ → Bytes) : Embedded.Slot (KeyTable κ Bytes) → Bytes
  | .missing => []
  | .foreign => utf8 "?"
  | .present t => utf8 "=" ++ fields (t.rows.flatMap fun row => [key row.1, row.2])

/-- Reads a table. -/
def slot? {κ : Type} [KeyOrder κ] (key? : Bytes → Option κ) (b : Bytes) :
    Option (Embedded.Slot (KeyTable κ Bytes)) :=
  match b with
  | [] => some .missing
  | 0x3F :: [] => some .foreign
  | 0x3D :: rest => do
    let rows ← pairs? (← fieldsOf? rest)
    let t ← rows.foldlM (fun (t : KeyTable κ Bytes) row => do
      return t.insert (← key? row.1) row.2) .empty
    return .present t
  | _ => none

/-- The file of an embedded store. -/
def image (i : Embedded.Image) : Bytes :=
  fields [embeddedMark, slot utf8 i.users, slot id i.index]

/-- Reads the file of an embedded store. -/
def image? (b : Bytes) : Option Embedded.Image := do
  match ← fieldsOf? b with
  | [mark, users, index] =>
    if mark = embeddedMark then return ⟨← slot? ofUtf8? users, ← slot? some index⟩ else none
  | _ => none

/-! ## The file of the relational store -/

/-- The mark of the relational store. -/
def relationalMark : Bytes := utf8 "roster relational 1"

/-- A full name: no bytes if it is missing, and otherwise a sign and the name. -/
def fullName : Option String → Bytes
  | none => []
  | some name => utf8 ("=" ++ name)

/-- Reads a full name. -/
def fullName? : Bytes → Option (Option String)
  | [] => some none
  | 0x3D :: rest => (ofUtf8? rest).map some
  | _ => none

/-- What a database may have declared. -/
def declarations : List Relational.Declaration :=
  Relational.schema.map (·.declaration) ++ [.table Relational.Database.nameless, .table Relational.Database.roleless]

/-- A declaration, as the statement that makes it. -/
def declaration (d : Relational.Declaration) : Bytes := utf8 (Relational.Creation.sql .sqlite ⟨false, d⟩)

/-- Reads a declaration. -/
def declaration? (b : Bytes) : Option Relational.Declaration := declarations.find? (declaration · = b)

/-- Yes or no. -/
def answer (b : Bool) : Bytes := utf8 (if b then "yes" else "no")

/-- Reads yes or no. -/
def answer? (b : Bytes) : Option Bool :=
  if b = answer true then some true else if b = answer false then some false else none

/-- A row that may not be written, as a word and the text that it is about. -/
def refusal : Relational.Refusal → List Bytes
  | .roleInsert role => [utf8 "role insert", utf8 role]
  | .roleDelete role => [utf8 "role delete", utf8 role]
  | .userInsert email => [utf8 "user insert", utf8 email]
  | .userUpdate email => [utf8 "user update", utf8 email]
  | .userDelete email => [utf8 "user delete", utf8 email]

/-- Reads a row that may not be written. -/
def refusal? (pair : Bytes × Bytes) : Option Relational.Refusal := do
  let about ← ofUtf8? pair.2
  match ← ofUtf8? pair.1 with
  | "role insert" => some (.roleInsert about)
  | "role delete" => some (.roleDelete about)
  | "user insert" => some (.userInsert about)
  | "user update" => some (.userUpdate about)
  | "user delete" => some (.userDelete about)
  | _ => none

/-- The file of a relational store. -/
def database (db : Relational.Database) : Bytes :=
  fields [relationalMark,
    fields (db.users.rows.flatMap fun row => [utf8 row.1, fullName row.2]),
    fields (db.roles.keys.flatMap fun key => [utf8 key.1, utf8 key.2]),
    fields (db.declared.rows.map fun row => declaration row.2), answer db.caseless,
    fields (db.refusals.flatMap refusal)]

/-- Reads the file of a relational store. -/
def database? (b : Bytes) : Option Relational.Database := do
  match ← fieldsOf? b with
  | [mark, users, roles, declared, caseless, refusals] =>
    if mark = relationalMark then
      let users ← pairs? (← fieldsOf? users)
      let users ← users.foldlM (fun (t : KeyTable String (Option String)) row => do
        return t.insert (← ofUtf8? row.1) (← fullName? row.2)) .empty
      let roles ← pairs? (← fieldsOf? roles)
      let roles ← roles.foldlM (fun (t : KeyTable (String × String) Unit) row => do
        return t.insert (← ofUtf8? row.1, ← ofUtf8? row.2) ()) .empty
      let refusals ← (← pairs? (← fieldsOf? refusals)).mapM refusal?
      let declared ← (← fieldsOf? declared).mapM declaration?
      let bare := declared.foldl Relational.Database.declare .blank
      return { bare with users := users, roles := roles, caseless := ← answer? caseless, refusals := refusals }
    else none
  | _ => none

end Stored

namespace Content

/-- A content as bytes. -/
def toBytes : Content → Bytes
  | bytes b => b
  | embedded i => Stored.image i
  | relational db => Stored.database db

/-- The content that bytes are. -/
def ofBytes (b : Bytes) : Content :=
  match Stored.image? b with
  | some i => embedded i
  | none =>
    match Stored.database? b with
    | some db => relational db
    | none => bytes b

end Content

end Roster.Files
