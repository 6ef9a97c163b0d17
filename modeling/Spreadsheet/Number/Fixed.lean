import Spreadsheet.Number.Notation

/-!
# Rounding in decimal

A number is rounded as its canonical text reads, not as its binary value: `2.675` to two places is
`2.68`. The text becomes an integer of at most 96 bits over a power of ten of at most 28 places
(`Fixed.ofFloat`), that decimal is rounded with halves away from zero, and the result goes back to
the nearest number. A number too large for 96 bits is scaled in binary instead.
-/

namespace Spreadsheet.Decimal

/-- The decimal `mantissa / 10 ^ scale`, with the sign apart. -/
structure Fixed where
  negative : Bool
  mantissa : Nat
  scale : Nat

def maxScale : Nat := 28

def mantissaBound : Nat := 1 <<< 96

/-- The decimal of the canonical text of a number; digits beyond the last place are rounded half
up on the first one dropped. -/
def Fixed.ofFloat (x : Float) : Option Fixed :=
  if ¬ x.isFinite then none
  else if x == 0 then some ⟨Binary64.isNegative x, 0, 0⟩
  else
    let (d, g) := shortest x
    let fixed : Fixed :=
      if 0 ≤ g then ⟨Binary64.isNegative x, d * powerOfTen g.toNat, 0⟩
      else if -g ≤ maxScale then ⟨Binary64.isNegative x, d, (-g).toNat⟩
      else
        let kept := d / powerOfTen ((-g).toNat - maxScale - 1)
        ⟨Binary64.isNegative x, (kept + 5) / 10, maxScale⟩
    if fixed.mantissa < mantissaBound then some fixed else none

def divideHalfUp (n d : Nat) : Nat := (2 * n + d) / (2 * d)

def Fixed.roundTo (f : Fixed) (places : Nat) : Fixed :=
  if f.scale ≤ places then f
  else
    { f with
      mantissa := divideHalfUp f.mantissa (powerOfTen (f.scale - places))
      scale := places }

def Fixed.roundLeft (f : Fixed) (zeros : Nat) : Option Fixed :=
  let mantissa := divideHalfUp f.mantissa (powerOfTen (f.scale + zeros)) * powerOfTen zeros
  if mantissa < mantissaBound then some { f with mantissa, scale := 0 } else none

/-- Back to a number. With places, whole part and fraction are converted apart, added, and the sum
rounded to the places once more. -/
def Fixed.toFloat (f : Fixed) : Float :=
  let size :=
    if f.scale = 0 then Binary64.ofNat f.mantissa
    else
      let unit := powerOfTen f.scale
      let fraction := Binary64.ofNat (f.mantissa % unit) / Binary64.ofNat unit
      let whole := Binary64.ofNat (f.mantissa / unit)
      if fraction == 0 then whole
      else
        let power := Binary64.tenPower f.scale
        Binary64.round ((whole + fraction) * power) / power
  if f.negative then -size else size

def roundScaled (x digits : Float) : Float :=
  if 0 ≤ digits ∧ 1e15 ≤ x.abs then x
  else
    let n := Binary64.clamp (-308) 308 (Binary64.truncate digits)
    let power := Binary64.tenPower n.natAbs
    let power := if n < 0 then 1 / power else power
    let result := Binary64.round (x * power) / power
    if result.isFinite then result else x

def roundHalfAway (x digits : Float) : Float :=
  match Fixed.ofFloat x with
  | none => roundScaled x digits
  | some f =>
    if 0 ≤ digits then
      (f.roundTo (min maxScale (Binary64.truncate digits).toNat)).toFloat
    else if 28 < -digits then 0
    else
      match f.roundLeft (Binary64.truncate (-digits)).toNat with
      | some rounded => rounded.toFloat
      | none => roundScaled x digits

end Spreadsheet.Decimal
