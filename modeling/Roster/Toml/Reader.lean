import Roster.Toml.Item
import Roster.Toml.Lexeme

/-!
# Reading a TOML document

A document is read line by line: headers open tables, and lines with an equals sign add to the
table that is open. `read?` answers the entries of the whole document, or nothing when it breaks
a rule.
-/

namespace Roster.Toml

/-- Reads the word `word` as an item. -/
def word? (word : String) (item : Item) (s : List Char) : Option (Item × List Char) :=
  let w := word.toList
  if w.isPrefixOf s then some (item, s.drop w.length) else none

/-- Reads a date, a time or a number. -/
def scalar? (s : List Char) : Option (Item × List Char) :=
  if startsMoment s then (moment? s).map fun rest => (.moment, rest)
  else
    match real? s with
    | some rest => some (.real, rest)
    | none => (integer? s).map fun (n, rest) => (.integer n, rest)

mutual

/-- Reads a value inside `depth` brackets. The first argument bounds the number of steps. -/
def value? : (fuel : Nat) → (depth : Nat) → List Char → Option (Item × List Char)
  | 0, _, _ => none
  | fuel + 1, depth, s =>
    match s with
    | '"' :: _ | '\'' :: _ => (string? s).map fun (t, rest) => (.text t, rest)
    | '[' :: rest =>
      if depth + 1 < depthLimit then (items? fuel (depth + 1) rest).map fun (l, rest) => (.list l, rest)
      else none
    | '\x7b' :: rest =>
      if depth + 1 < depthLimit then
        match skipSpace rest with
        | '\x7d' :: rest => some (.inline false [], rest)
        | rest => (pairs? fuel (depth + 1) [] rest).map fun (es, rest) => (.inline false es, rest)
      else none
    | 't' :: _ => word? "true" (.boolean true) s
    | 'f' :: _ => word? "false" (.boolean false) s
    | 'i' :: _ | 'n' :: _ => (real? s).map fun rest => (.real, rest)
    | c :: _ => if c.isDigit || c == '+' || c == '-' then scalar? s else none
    | [] => none

/-- Reads the values of a list up to its bracket. -/
def items? : (fuel : Nat) → (depth : Nat) → List Char → Option (List Item × List Char)
  | 0, _, _ => none
  | fuel + 1, depth, s => do
    match ← skipLines? (s.length + 1) s with
    | ']' :: rest => return ([], rest)
    | s =>
      let (item, rest) ← value? fuel depth s
      match ← skipLines? (rest.length + 1) rest with
      | ',' :: rest =>
        let (l, rest) ← items? fuel depth rest
        return (item :: l, rest)
      | ']' :: rest => return ([item], rest)
      | _ => none

/-- Reads the keys and values of a table in braces, up to its brace, and adds them to `es`. -/
def pairs? : (fuel : Nat) → (depth : Nat) → Entries → List Char → Option (Entries × List Char)
  | 0, _, _, _ => none
  | fuel + 1, depth, es, s => do
    let ((path, key), rest) ← key? s
    let rest ← expect? '=' rest
    let (item, rest) ← value? fuel depth (skipSpace rest)
    let es ← es.addInline? key item path
    match skipSpace rest with
    | ',' :: rest => pairs? fuel depth es rest
    | '\x7d' :: rest => return (es, rest)
    | _ => none

end

/-- Reads a line with a key and a value. -/
def pairLine? (b : Builder) (s : List Char) : Option (Builder × List Char) := do
  let ((path, key), rest) ← key? s
  let rest := skipSpace (← expect? '=' rest)
  let (item, rest) ← value? (2 * rest.length + 2) 0 rest
  let rest ← lineEnd? rest
  return (← b.line? path key item, rest)

/-- Reads a header, after its first bracket. -/
def headerLine? (b : Builder) (s : List Char) : Option (Builder × List Char) := do
  let ((path, key), rest) ← key? s
  let rest ← lineEnd? (← expect? ']' rest)
  return (← b.header? (path ++ [key]), rest)

/-- Reads a header in double brackets, after these. -/
def arrayHeaderLine? (b : Builder) (s : List Char) : Option (Builder × List Char) := do
  let ((path, key), rest) ← key? s
  let rest ← expect? ']' rest
  let rest ← lineEnd? (← expect? ']' rest)
  return (← b.arrayHeader? (path ++ [key]), rest)

/-- Reads lines to the end. The first argument bounds their number. -/
def lines? : (fuel : Nat) → Builder → List Char → Option Entries
  | 0, _, _ => none
  | fuel + 1, b, s =>
    match skipSpace s with
    | [] => b.close?
    | '#' :: rest => do lines? fuel b (← lineEnd? ('#' :: rest))
    | '\n' :: rest => lines? fuel b rest
    | '\r' :: rest => do lines? fuel b (← newline? ('\r' :: rest))
    | '[' :: '[' :: rest => do
      let (b, rest) ← arrayHeaderLine? b rest
      lines? fuel b rest
    | '[' :: rest => do
      let (b, rest) ← headerLine? b rest
      lines? fuel b rest
    | s => do
      let (b, rest) ← pairLine? b s
      lines? fuel b rest

/-- The entries of a document. -/
def read? (document : String) : Option Entries :=
  let s := document.toList
  let s := if s.head? == some '\uFEFF' then s.drop 1 else s
  lines? (s.length + 1) .new s

end Roster.Toml
