import Roster.Text.Quoted

/-!
# Faults of a record

A record that cannot be read is refused with what is wrong and where. The place is kept as the
number of bytes that were still to be read, from which line and column follow once the whole
record is at hand.
-/

namespace Roster.Record

/-- The form that a value has in a record. -/
inductive Found where
  | null
  | boolean (b : Bool)
  | integer (text : String)
  | real (text : String)
  | text (s : String)
  | list
  | object

/-- The form in words. -/
def Found.describe : Found → String
  | null => "null"
  | boolean true => "boolean `true`"
  | boolean false => "boolean `false`"
  | integer t => "integer `" ++ t ++ "`"
  | real t => "floating point `" ++ t ++ "`"
  | text s => "string " ++ Text.quoted s
  | list => "sequence"
  | object => "map"

/-- The form that a value should have. -/
inductive Wanted where
  | text
  | list
  | user

/-- The wanted form in words. -/
def Wanted.describe : Wanted → String
  | text => "a string"
  | list => "a sequence"
  | user => "struct User"

/-- The members of a user's record. -/
inductive Field where
  | email
  | fullName
  | roles
  deriving DecidableEq, Repr

/-- The name of a member. -/
def Field.name : Field → String
  | email => "email"
  | fullName => "full_name"
  | roles => "roles"

/-- What is wrong with a record. -/
inductive Trouble where
  | endInObject
  | endInList
  | endInString
  | endInValue
  | colonExpected
  | listCommaExpected
  | objectCommaExpected
  | wordExpected
  | valueExpected
  | badEscape
  | badNumber
  | numberTooLarge
  | badCodePoint
  | controlCharacter
  | keyNotString
  | loneSurrogate
  | endOfHexEscape
  | trailingComma
  | trailingCharacters
  | missingField (f : Field)
  | duplicateField (f : Field)
  | wrongType (found : Found) (wanted : Wanted)
  | wrongLength (n : Nat)

/-- The trouble in words. -/
def Trouble.describe : Trouble → String
  | endInObject => "EOF while parsing an object"
  | endInList => "EOF while parsing a list"
  | endInString => "EOF while parsing a string"
  | endInValue => "EOF while parsing a value"
  | colonExpected => "expected `:`"
  | listCommaExpected => "expected `,` or `]`"
  | objectCommaExpected => "expected `,` or `\x7d`"
  | wordExpected => "expected ident"
  | valueExpected => "expected value"
  | badEscape => "invalid escape"
  | badNumber => "invalid number"
  | numberTooLarge => "number out of range"
  | badCodePoint => "invalid unicode code point"
  | controlCharacter => "control character (\\u0000-\\u001F) found while parsing a string"
  | keyNotString => "key must be a string"
  | loneSurrogate => "lone leading surrogate in hex escape"
  | endOfHexEscape => "unexpected end of hex escape"
  | trailingComma => "trailing comma"
  | trailingCharacters => "trailing characters"
  | missingField f => "missing field `" ++ f.name ++ "`"
  | duplicateField f => "duplicate field `" ++ f.name ++ "`"
  | wrongType found wanted => "invalid type: " ++ found.describe ++ ", expected " ++ wanted.describe
  | wrongLength n => "invalid length " ++ toString n ++ ", expected struct User with 3 elements"

/-- Why and where a record is refused. -/
structure Fault where
  trouble : Trouble
  /-- How many bytes of the record lie beyond the place. -/
  left : Nat

namespace Fault

/-- Trouble just before the bytes that are still to be read. -/
def here (t : Trouble) (rest : Bytes) : Fault := ⟨t, rest.length⟩

/-- Trouble with the next byte, if there is one. -/
def onNext (t : Trouble) (rest : Bytes) : Fault := ⟨t, rest.length - 1⟩

/-- The line of the place, counted from one, and the number of bytes before it in that line. -/
def position (record : Bytes) (f : Fault) : Nat × Nat :=
  let before := record.take (record.length - f.left)
  (before.count 0x0A + 1, (before.reverse.takeWhile (· != 0x0A)).length)

/-- The fault in words. -/
def message (record : Bytes) (f : Fault) : String :=
  let (line, column) := f.position record
  s!"{f.trouble.describe} at line {line} column {column}"

end Fault

end Roster.Record
