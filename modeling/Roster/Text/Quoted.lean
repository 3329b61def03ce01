import Roster.Text.Bytes
import Roster.Text.Ranges
import Roster.Text.Shapeless

/-!
# Quoted texts

How messages show a text that the caller chose: in double quotes, with quote and backslash
escaped, the common controls by letter, and every character without a shape of its own as
a backslash, a `u` and its number in braces.
-/

namespace Roster.Text

/-- The character cannot be told from its looks. -/
def isShapeless (c : Char) : Bool :=
  if 0x20 ≤ c.toNat && c.toNat < 0x7F then false else inRanges shapelessTable c.toNat

/-- A character inside quotes. -/
def quotedChar (c : Char) : String :=
  if c = '"' then "\\\""
  else if c = '\\' then "\\\\"
  else if c.toNat = 0 then "\\0"
  else if c = '\t' then "\\t"
  else if c = '\n' then "\\n"
  else if c = '\r' then "\\r"
  else if isShapeless c then "\\u\x7b" ++ hexDigits c.toNat ++ "\x7d"
  else c.toString

/-- The text in quotes. -/
def quoted (s : String) : String :=
  "\"" ++ String.join (s.toList.map quotedChar) ++ "\""

/-- A list of texts in quotes, in brackets. -/
def quotedList (l : List String) : String :=
  "[" ++ String.intercalate ", " (l.map quoted) ++ "]"

end Roster.Text
