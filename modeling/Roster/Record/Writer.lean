import Roster.Record.Sign
import Roster.User

/-!
# Writing a user's record

A record is one line of JSON without space: the three members in a fixed order, and in strings
the shortest escape of those characters that need one.
-/

namespace Roster.Record

/-- A hexadecimal digit, lower case. -/
def hexByte (n : UInt8) : UInt8 := if n < 10 then 0x30 + n else 0x57 + n

/-- A byte of a string as it is written. -/
def writeByte (b : UInt8) : Bytes :=
  if b = Sign.quote then [Sign.backslash, Sign.quote]
  else if b = Sign.backslash then [Sign.backslash, Sign.backslash]
  else if b = 0x08 then [Sign.backslash, Sign.letterB]
  else if b = 0x09 then [Sign.backslash, Sign.letterT]
  else if b = 0x0A then [Sign.backslash, Sign.letterN]
  else if b = 0x0C then [Sign.backslash, Sign.letterF]
  else if b = 0x0D then [Sign.backslash, Sign.letterR]
  else if Sign.isControl b then
    [Sign.backslash, Sign.letterU, Sign.zero, Sign.zero, hexByte (b / 16), hexByte (b % 16)]
  else [b]

/-- A text in quotes. -/
def writeText (s : String) : Bytes :=
  Sign.quote :: (utf8 s).flatMap writeByte ++ [Sign.quote]

/-- Parts with commas between them. -/
def joinParts : List Bytes → Bytes
  | [] => []
  | [p] => p
  | p :: ps => p ++ Sign.comma :: joinParts ps

/-- A list of texts in brackets. -/
def writeTexts (l : List String) : Bytes :=
  Sign.listOpen :: joinParts (l.map writeText) ++ [Sign.listClose]

/-- A member of an object. -/
def writeMember (key : String) (value : Bytes) : Bytes :=
  writeText key ++ Sign.colon :: value

/-- The record of a user. -/
def encode (u : User) : Bytes :=
  Sign.objectOpen :: joinParts
    [writeMember "email" (writeText u.email),
     writeMember "full_name" (writeText u.fullName),
     writeMember "roles" (writeTexts u.roles)] ++ [Sign.objectClose]

end Roster.Record
