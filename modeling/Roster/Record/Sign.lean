import Roster.Text.Bytes

/-!
# The signs of a record

The bytes that have a meaning of their own in the text of a record.
-/

namespace Roster.Record.Sign

abbrev quote : UInt8 := 0x22
abbrev backslash : UInt8 := 0x5C
abbrev slash : UInt8 := 0x2F
abbrev comma : UInt8 := 0x2C
abbrev colon : UInt8 := 0x3A
abbrev listOpen : UInt8 := 0x5B
abbrev listClose : UInt8 := 0x5D
abbrev objectOpen : UInt8 := 0x7B
abbrev objectClose : UInt8 := 0x7D
abbrev minus : UInt8 := 0x2D
abbrev plus : UInt8 := 0x2B
abbrev point : UInt8 := 0x2E
abbrev zero : UInt8 := 0x30
abbrev nine : UInt8 := 0x39
abbrev letterB : UInt8 := 0x62
abbrev letterE : UInt8 := 0x65
abbrev capitalE : UInt8 := 0x45
abbrev letterF : UInt8 := 0x66
abbrev letterN : UInt8 := 0x6E
abbrev letterR : UInt8 := 0x72
abbrev letterT : UInt8 := 0x74
abbrev letterU : UInt8 := 0x75

/-- Space, tab, line feed and carriage return may stand between the parts of a record. -/
def isSpace (b : UInt8) : Bool := b == 0x20 || b == 0x09 || b == 0x0A || b == 0x0D

/-- A decimal digit. -/
def isDigit (b : UInt8) : Bool := zero ≤ b && b ≤ nine

/-- Bytes below the space may not stand in a string. -/
def isControl (b : UInt8) : Bool := b < 0x20

/-- The record without the space it starts with. -/
def skipSpace (s : Bytes) : Bytes := s.dropWhile isSpace

end Roster.Record.Sign
