/-!
# TOML documents

A document is a table of items under keys. Where a table came from decides what may still be
added to it: a header may define a table once, and keys with dots may only open tables that such
keys have made.
-/

namespace Roster.Toml

/-- Where a table came from. -/
inductive Origin where
  /-- A header names it. -/
  | header
  /-- A header names a table inside it. -/
  | path
  /-- A key with dots leads through it. -/
  | dotted
  deriving DecidableEq, Repr

/-- What stands under a key. -/
inductive Item where
  | text (s : String)
  | integer (n : Int)
  | real
  | boolean (b : Bool)
  /-- A date, a time, or both. -/
  | moment
  | list (items : List Item)
  /-- A table in braces; true if a key with dots made it. -/
  | inline (dotted : Bool) (entries : List (String × Item))
  | table (origin : Origin) (entries : List (String × Item))
  /-- The tables of headers in double brackets. -/
  | tables (l : List (List (String × Item)))

/-- Keys and items, in the order in which they were first seen. -/
abbrev Entries := List (String × Item)

namespace Entries

/-- The item under a key. -/
def find? (es : Entries) (key : String) : Option Item := es.lookup key

/-- The entries with an item under a new key, or another item under a known one. -/
def set (es : Entries) (key : String) (item : Item) : Entries :=
  match es with
  | [] => [(key, item)]
  | e :: es => if e.1 = key then (key, item) :: es else e :: set es key item

/-- The entries without a key. -/
def remove (es : Entries) (key : String) : Entries := es.filter fun e => e.1 ≠ key

/-- The entries with an item under a key, which has to be new. -/
def add? (es : Entries) (key : String) (item : Item) : Option Entries :=
  if (es.find? key).isSome then none else some (es.set key item)

/-- Changes a table in which keys lead from the entries `es` of a table with the given origin.
Tables that are missing on the way are made. Keys with dots open only tables that no header
names. -/
def within {β : Type} (dotted : Bool) (change : Origin → Entries → Option (β × Entries)) :
    (path : List String) → Origin → Entries → Option (β × Entries)
  | [], origin, es => change origin es
  | key :: path, _, es =>
    match es.find? key with
    | none => do
      let origin : Origin := if dotted then .dotted else .path
      let (b, sub) ← within dotted change path origin []
      return (b, es.set key (.table origin sub))
    | some (.table origin sub) =>
      if dotted ∧ origin = .header then none
      else do
        let (b, sub) ← within dotted change path origin sub
        return (b, es.set key (.table origin sub))
    | some (.tables l) => do
      let last ← l.getLast?
      let (b, last) ← within dotted change path .header last
      return (b, es.set key (.tables (l.dropLast ++ [last])))
    | some _ => none

/-- Adds an item that stands behind keys with dots: a table that only a header's path has made is
closed to them, and so is, without dots, one that dots have made. -/
def addDotted? (es : Entries) (path : List String) (key : String) (item : Item) : Option Entries := do
  let change (origin : Origin) (sub : Entries) : Option (Unit × Entries) :=
    if decide (origin = .dotted) = path.isEmpty then none
    else (sub.add? key item).map fun sub => ((), sub)
  let ((), es) ← within true change path .header es
  return es

/-- The same inside braces: only tables that keys with dots have made there are open. -/
def addInline? (es : Entries) (key : String) (item : Item) : (path : List String) → Option Entries
  | [] => es.add? key item
  | k :: path =>
    match es.find? k with
    | none => do return es.set k (.inline true (← addInline? [] key item path))
    | some (.inline true sub) => do return es.set k (.inline true (← addInline? sub key item path))
    | some _ => none

end Entries

/-! ## Building a document line by line -/

/-- A document in the making. -/
structure Builder where
  /-- The tables that are finished. -/
  root : Entries
  /-- The table that the last header opened. -/
  current : Entries
  /-- The keys of that header; none before the first header. -/
  path : List String
  /-- The last header was in double brackets. -/
  isArray : Bool

namespace Builder

/-- Nothing yet. -/
def new : Builder := ⟨[], [], [], false⟩

/-- Adds a line with a key and an item. -/
def line? (b : Builder) (path : List String) (key : String) (item : Item) : Option Builder := do
  return { b with current := ← b.current.addDotted? path key item }

/-- Puts the open table in its place. -/
def close? (b : Builder) : Option Entries :=
  match b.path.getLast? with
  | none => some b.current
  | some key =>
    let place (_ : Origin) (es : Entries) : Option (Unit × Entries) :=
      if b.isArray then
        match es.find? key with
        | none => some ((), es.set key (.tables [b.current]))
        | some (.tables l) => some ((), es.set key (.tables (l ++ [b.current])))
        | some _ => none
      else (es.add? key (.table .header b.current)).map fun es => ((), es)
    (Entries.within false place b.path.dropLast .header b.root).map (·.2)

/-- Opens the table of a header. A table that so far only led to others is taken up. -/
def header? (b : Builder) (path : List String) : Option Builder := do
  let root ← b.close?
  let key ← path.getLast?
  let open_ (_ : Origin) (es : Entries) : Option (Entries × Entries) :=
    match es.find? key with
    | none => some ([], es)
    | some (.table .path sub) => some (sub, es.remove key)
    | some _ => none
  let (current, root) ← Entries.within false open_ path.dropLast .header root
  return ⟨root, current, path, false⟩

/-- Opens one more table of a header in double brackets. -/
def arrayHeader? (b : Builder) (path : List String) : Option Builder := do
  let root ← b.close?
  let key ← path.getLast?
  let check (_ : Origin) (es : Entries) : Option (Unit × Entries) :=
    match es.find? key with
    | none | some (.tables _) => some ((), es)
    | some _ => none
  let ((), root) ← Entries.within false check path.dropLast .header root
  return ⟨root, [], path, true⟩

end Builder

end Roster.Toml
