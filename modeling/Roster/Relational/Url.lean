import Roster.Text.Blank
import Roster.Text.Lowercase
import Roster.Text.Percent

/-!
# Database URLs

A URL of a database has to be a valid one. Only a scheme in small letters is then taken off, as
often as it stands there; what is left up to a question mark is the percent-encoded path of the
file, and what follows are options.
-/

namespace Roster.Relational

/-! ## Valid URLs -/

/-- Characters that are dropped at the ends of a URL. -/
def isUrlEdge (c : Char) : Bool := c.toNat ≤ 0x20

/-- Characters that are passed over everywhere in a URL. -/
def isUrlIgnored (c : Char) : Bool := c == '\t' || c == '\n' || c == '\r'

/-- Characters that end the part of a URL that names a host. -/
def isUrlBreak (c : Char) : Bool := c == '/' || c == '?' || c == '#'

/-- The URL without what is ignored. -/
def urlChars (url : String) : List Char :=
  let trimmed := (url.toList.dropWhile isUrlEdge).reverse.dropWhile isUrlEdge
  trimmed.reverse.filter (!isUrlIgnored ·)

/-- The scheme of a URL, in small letters, and what follows its colon. -/
def urlScheme? (s : List Char) : Option (String × List Char) :=
  let isSchemeChar (c : Char) : Bool := c.isAlphanum || c == '+' || c == '-' || c == '.'
  match s with
  | c :: _ =>
    match s.dropWhile isSchemeChar with
    | ':' :: rest =>
      if c.isAlpha then some (String.ofList ((s.takeWhile isSchemeChar).map Char.toLower), rest)
      else none
    | _ => none
  | [] => none

/-- A group of an address in brackets: one to four hexadecimal digits. -/
def isAddressGroup (s : List Char) : Bool :=
  0 < s.length && s.length ≤ 4 &&
    s.all fun c => c.toNat < 0x80 && (hexValue? c.toUInt8).isSome

/-- A number of an address with dots: up to 255, without zeros in front. -/
def isAddressByte (s : List Char) : Bool :=
  0 < s.length && s.length ≤ 3 && s.all Char.isDigit && (s.length == 1 || s.head? != some '0') &&
    s.foldl (fun n c => n * 10 + (c.toNat - 48)) 0 ≤ 255

/-- The number of groups that parts of an address stand for; an address with dots may come last
and stands for two. -/
def addressGroups? (dotsAllowed : Bool) : List (List Char) → Option Nat
  | [] => some 0
  | [s] =>
    if isAddressGroup s then some 1
    else
      let numbers := Text.splitAt '.' s
      if dotsAllowed && numbers.length == 4 && numbers.all isAddressByte then some 2 else none
  | s :: rest => if isAddressGroup s then (addressGroups? dotsAllowed rest).map (· + 1) else none

/-- The parts of an address before and after its first double colon. -/
def cutDouble : List Char → List Char × Option (List Char)
  | ':' :: ':' :: rest => ([], some rest)
  | c :: rest =>
    let (before, after) := cutDouble rest
    (c :: before, after)
  | [] => ([], none)

/-- An address in brackets has eight groups, or fewer and a double colon for the others. -/
def isAddress (s : List Char) : Bool :=
  let groups (dots : Bool) (s : List Char) : Option Nat :=
    if s.isEmpty then some 0 else addressGroups? dots (Text.splitAt ':' s)
  match cutDouble s with
  | (all, none) => groups true all == some 8
  | (before, some after) =>
    match groups false before, groups true after with
    | some m, some n => m + n ≤ 7
    | _, _ => false

/-- Characters that a host cannot have. -/
def isBadHostChar (c : Char) : Bool :=
  ['\x00', '\t', '\n', '\r', ' ', '#', '/', ':', '<', '>', '?', '@', '[', '\\', ']', '^', '|'].contains c

/-- A host is an address in brackets or a name. -/
def isHost (s : List Char) : Bool :=
  match s with
  | '[' :: rest => rest.getLast? == some ']' && isAddress rest.dropLast
  | s => !s.any isBadHostChar

/-- The end of a host: a colon outside of brackets, or the end of the authority. -/
def hostLength : (inside : Bool) → List Char → Nat
  | _, [] => 0
  | inside, c :: rest =>
    if (c == ':' && !inside) || isUrlBreak c then 0
    else hostLength (c == '[' || (inside && c != ']')) rest + 1

/-- A port is a number of sixteen bits, or nothing. -/
def isPort (s : List Char) : Bool :=
  s.all Char.isDigit && s.foldl (fun n c => n * 10 + (c.toNat - 48)) 0 < Nat.pow 2 16

/-- The authority of a URL, which follows two slashes: a user, up to the last at sign, a host and a
port. Without a host there may be no port and, unless it is a lone colon, no user; and an at sign
alone may only end the URL. -/
def isAuthority (s : List Char) : Bool :=
  let authority := s.takeWhile (!isUrlBreak ·)
  let more := s.drop authority.length
  let user := (authority.reverse.dropWhile (· != '@')).drop 1
  let rest := (authority.reverse.takeWhile (· != '@')).reverse
  let host := rest.take (hostLength false rest)
  let port := rest.drop host.length
  let alone := port.isEmpty && (user.isEmpty || user == [':']) &&
    !(user.isEmpty && authority.contains '@' && !more.isEmpty)
  isHost host && (!host.isEmpty || alone) && isPort (port.drop 1)

/-- The scheme of a valid URL. -/
def schemeOf? (url : String) : Option String :=
  match urlScheme? (urlChars url) with
  | none => none
  | some (scheme, '/' :: '/' :: rest) => if isAuthority rest then some scheme else none
  | some (scheme, _) => some scheme

/-! ## Where the database is -/

/-- What a URL says about the file of a database. -/
structure Location where
  /-- The path of the file; none for a database that lives in memory. -/
  path : Option String
  readOnly : Bool
  /-- The file never changes, and so is not written either. -/
  immutable : Bool
  /-- The file is created if it is missing. -/
  create : Bool
  deriving DecidableEq, Repr

/-- The path that keeps a database in memory. -/
def memoryPath : String := ":memory:"

/-- A text without a scheme in front, as often as it stands there. The first argument bounds how
often. -/
def dropScheme (scheme : List Char) : (fuel : Nat) → List Char → List Char
  | 0, s => s
  | fuel + 1, s =>
    if scheme.isPrefixOf s then dropScheme scheme fuel (s.drop scheme.length) else s

/-- The ways to reach a file that the system has. -/
def fileSystems : List String := ["unix", "unix-dotfile", "unix-excl", "unix-none"]

/-- A location with an option applied; none if there is no such option or value. -/
def Location.apply? (l : Location) (option : Bytes × Bytes) : Option Location := do
  let name ← ofUtf8? option.1
  let value ← ofUtf8? option.2
  match name, value with
  | "mode", "ro" => some { l with readOnly := true }
  | "mode", "rw" => some l
  | "mode", "rwc" => some { l with create := true }
  | "mode", "memory" => some { l with path := none }
  | "cache", "private" | "cache", "shared" => some l
  | "immutable", "true" | "immutable", "1" => some { l with immutable := true }
  | "immutable", "false" | "immutable", "0" => some { l with immutable := false }
  | "vfs", name => if fileSystems.contains name then some l else none
  | _, _ => none

/-- A path that is a file URL in turn: a local authority, and the percent-encoded path before any
query or fragment. -/
def fileUrlPath? (s : List Char) : Option String := do
  let s ← match s with
    | '/' :: '/' :: rest =>
      let authority := String.ofList (rest.takeWhile (· != '/'))
      if authority = "" ∨ authority = "localhost" then some (rest.dropWhile (· != '/')) else none
    | s => some s
  let path := s.takeWhile fun c => c != '?' && c != '#'
  ofUtf8? (Text.percentDecode (utf8 (String.ofList path)))

/-- The path that an encoded one stands for, none for the memory; no answer if it is wrong. -/
def pathOf? (encoded : Bytes) : Option (Option String) := do
  let path ← ofUtf8? (Text.percentDecode encoded)
  let path ← match path.toList with
    | 'f' :: 'i' :: 'l' :: 'e' :: ':' :: rest => fileUrlPath? rest
    | _ => some path
  return if path = memoryPath then none else some path

/-- What a URL says, with its options; none if it is wrong. -/
def location? (url : String) : Option Location := do
  let s := dropScheme "sqlite://".toList url.length url.toList
  let s := dropScheme "sqlite:".toList url.length s
  let (database, options) := Text.cutAt 0x3F (utf8 (String.ofList s))
  let path ← pathOf? database
  (Text.formPairs (options.getD [])).foldlM Location.apply? ⟨path, false, false, false⟩

end Roster.Relational
