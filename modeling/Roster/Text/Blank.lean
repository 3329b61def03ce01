import Roster.Text.Ranges

/-!
# Blank characters

The characters with the Unicode property White_Space. A text made of them only counts as empty
wherever a value is required.
-/

namespace Roster.Text

/-- The code points with the property White_Space. -/
def blankTable : List (Nat × Nat) :=
  [(0x09, 0x0D), (0x20, 0x20), (0x85, 0x85), (0xA0, 0xA0), (0x1680, 0x1680), (0x2000, 0x200A),
   (0x2028, 0x2029), (0x202F, 0x202F), (0x205F, 0x205F), (0x3000, 0x3000)]

/-- A White_Space character. -/
def isBlankChar (c : Char) : Bool := inRanges blankTable c.toNat

/-- The text holds nothing but blanks. -/
def isBlank (s : String) : Bool := s.toList.all isBlankChar

/-- The text without the blanks it starts with. -/
def trimStart (s : String) : String := String.ofList (s.toList.dropWhile isBlankChar)

/-- The text without the blanks it ends with. -/
def trimEnd (s : String) : String :=
  String.ofList (s.toList.reverse.dropWhile isBlankChar).reverse

/-- The text without the blanks at either end. -/
def trim (s : String) : String := trimEnd (trimStart s)

end Roster.Text
