import Roster.Text.Bytes

/-!
# Percent encoding

In a URL a percent sign and two hexadecimal digits stand for a byte. A percent sign that two
digits do not follow stands for itself.
-/

namespace Roster.Text

/-- The bytes that percent-encoded bytes stand for. -/
def percentDecode : Bytes → Bytes
  | 0x25 :: a :: b :: rest =>
    match hexValue? a, hexValue? b with
    | some x, some y => (x * 16 + y).toUInt8 :: percentDecode rest
    | _, _ => 0x25 :: percentDecode (a :: b :: rest)
  | b :: rest => b :: percentDecode rest
  | [] => []

/-- The parts of a list between separators, at least one. -/
def splitAt {α : Type} [BEq α] (separator : α) : List α → List (List α)
  | [] => [[]]
  | x :: rest =>
    match splitAt separator rest with
    | [] => [[x]]
    | part :: parts => if x == separator then [] :: part :: parts else (x :: part) :: parts

/-- What stands before the first separator, and what stands after it, if there is one. -/
def cutAt {α : Type} [BEq α] (separator : α) : List α → List α × Option (List α)
  | [] => ([], none)
  | x :: rest =>
    if x == separator then ([], some rest)
    else
      let (before, after) := cutAt separator rest
      (x :: before, after)

/-- A part of a form: a plus sign stands for a space, and the rest is percent-encoded. -/
def formDecode (b : Bytes) : Bytes := percentDecode (b.map fun x => if x = 0x2B then 0x20 else x)

/-- Names and values of a form. A value may be missing. -/
def formPairs (b : Bytes) : List (Bytes × Bytes) :=
  ((splitAt 0x26 b).filter (!·.isEmpty)).map fun pair =>
    let (name, value) := cutAt 0x3D pair
    (formDecode name, formDecode (value.getD []))

end Roster.Text
