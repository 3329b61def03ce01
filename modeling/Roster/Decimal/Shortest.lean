import Roster.Decimal.Binary64

/-!
# The shortest digits of a number

A number is shown with the fewest decimal digits that read back as that number, and of those with
the digits closest to it. Numbers from a hundred-thousandth up to ten to the sixteenth are written
out with a point; all others have an exponent with a sign and at least two digits.
-/

namespace Roster.Decimal

/-- Fractions of natural numbers in order, by cross multiplication. -/
def ratioLE (a b : Nat × Nat) : Bool := a.1 * b.2 ≤ b.1 * a.2

/-- The distance between two fractions. -/
def ratioGap (a b : Nat × Nat) : Nat × Nat :=
  let x := a.1 * b.2
  let y := b.1 * a.2
  (if x ≤ y then y - x else x - y, a.2 * b.2)

/-- The fraction `n * 10 ^ p`. -/
def decimalRatio (n : Nat) (p : Int) : Nat × Nat :=
  if 0 ≤ p then (n * Nat.pow 10 p.toNat, 1) else (n, Nat.pow 10 (-p).toNat)

namespace Binary64

/-- The ends of the interval of values that round to `x`, which is not zero. -/
def interval (x : Binary64) : (Nat × Nat) × (Nat × Nat) :=
  let quarter : Int := x.exponent - 2
  let below := if x.mantissa = Nat.pow 2 52 ∧ x.exponent > minExponent then 4 * x.mantissa - 1
    else 4 * x.mantissa - 2
  (toRatio ⟨below, quarter⟩, toRatio ⟨4 * x.mantissa + 2, quarter⟩)

/-- A fraction rounds to `x`: it lies strictly inside the interval, or on an end when the integer
of `x` is even. -/
def covers (x : Binary64) (r : Nat × Nat) : Bool :=
  let (low, high) := x.interval
  if x.mantissa % 2 == 0 then ratioLE low r && ratioLE r high
  else !ratioLE r low && !ratioLE high r

/-- How many digits stand before the point; negative by the zeros that follow it. -/
def magnitude (x : Binary64) : Int :=
  let (num, den) := x.toRatio
  if den ≤ num then (Nat.toDigits 10 (num / den)).length
  else
    match (List.range 330).find? fun j => den ≤ num * Nat.pow 10 (j + 1) with
    | some j => -(j : Int)
    | none => 0

/-- The best decimal with `n` digits that reads back as `x`: digits and power of ten. -/
def decimalOf? (x : Binary64) (n : Nat) : Option (Nat × Int) :=
  let p := x.magnitude - n
  let v := x.toRatio
  let (one, scale) := decimalRatio 1 p
  let floor := v.1 * scale / (v.2 * one)
  let inside := [floor, floor + 1].filter fun c => x.covers (decimalRatio c p)
  match inside with
  | [a, b] =>
    if ratioLE (ratioGap v (decimalRatio a p)) (ratioGap v (decimalRatio b p)) then some (a, p)
    else some (b, p)
  | [a] => some (a, p)
  | _ => none

/-- A number without the zeros at its end, and how many there were. -/
def stripZeros : Nat → Nat → Nat × Nat
  | 0, n => (n, 0)
  | fuel + 1, n =>
    if n % 10 = 0 ∧ n ≠ 0 then
      let (m, k) := stripZeros fuel (n / 10)
      (m, k + 1)
    else (n, 0)

/-- The shortest digits of a number that is not zero, and the power of ten of the last. -/
def shortest (x : Binary64) : Nat × Int :=
  match (List.range 17).findSome? fun n => x.decimalOf? (n + 1) with
  | some (d, p) =>
    let (m, k) := stripZeros 18 d
    (m, p + k)
  | none => (0, 0)

/-- A number in digits. -/
def render (x : Binary64) : String :=
  if x.isZero then "0.0"
  else
    let (d, p) := x.shortest
    let digits := (Nat.repr d).toList
    let first : Int := digits.length + p - 1
    if -5 ≤ first ∧ first ≤ 15 then
      if 0 ≤ p then
        String.ofList (digits ++ List.replicate p.toNat '0') ++ ".0"
      else if 0 ≤ first then
        let whole := digits.take (first.toNat + 1)
        String.ofList whole ++ "." ++ String.ofList (digits.drop (first.toNat + 1))
      else "0." ++ String.ofList (List.replicate (-first - 1).toNat '0' ++ digits)
    else
      let mark := if first < 0 then "e-" else "e+"
      let size := Nat.repr first.natAbs
      let exponent := mark ++ (if first.natAbs < 10 then "0" ++ size else size)
      match digits with
      | [] => ""
      | [c] => String.ofList [c] ++ exponent
      | c :: rest => String.ofList (c :: '.' :: rest) ++ exponent

end Binary64

end Roster.Decimal
