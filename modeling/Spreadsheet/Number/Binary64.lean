/-!
# Binary64 numbers as integers times powers of two

A finite number is plus or minus `significand * 2 ^ (shift - 1075)`. From its two fields the module
reads the integer part exactly (`truncate`) and goes the other way from an integer to the nearest
number (`ofNat`, `ofInt`). None of this goes through a decimal text.
-/

namespace Spreadsheet.Binary64

def isNegative (x : Float) : Bool := 1 <<< 63 ≤ x.toBits.toNat

def exponentField (x : Float) : Nat := (x.toBits.toNat >>> 52) % 2048

def fractionField (x : Float) : Nat := x.toBits.toNat % (1 <<< 52)

def significand (x : Float) : Nat :=
  if exponentField x = 0 then fractionField x else (1 <<< 52) + fractionField x

def shift (x : Float) : Nat := max 1 (exponentField x)

def wholePart (numerator shift : Nat) : Nat :=
  if 1075 ≤ shift then numerator <<< (shift - 1075) else numerator >>> (1075 - shift)

/-- The integer part, toward zero. An infinity counts as `2 ^ 1024`, what is no number as 0. -/
def truncate (x : Float) : Int :=
  if x.isNaN then 0
  else
    let size := wholePart (significand x) (shift x)
    if isNegative x then -(size : Int) else size

def nearest (x : Float) : Int :=
  if x.isNaN then 0
  else
    let size := (wholePart (2 * significand x) (shift x) + 1) / 2
    if isNegative x then -(size : Int) else size

def shiftRightToEven (n s : Nat) : Nat :=
  let q := n >>> s
  let r := n % (1 <<< s)
  if 1 <<< s < 2 * r ∨ (1 <<< s = 2 * r ∧ q % 2 = 1) then q + 1 else q

/-- The bit pattern of the number nearest to `n`, ties to even. A significand that rounds up to the
next power of two carries into the exponent. -/
def natBits (n : Nat) : Nat :=
  if n = 0 then 0
  else
    let top := n.log2
    if 1024 ≤ top then 2047 <<< 52
    else
      let scaled := if top ≤ 52 then n <<< (52 - top) else shiftRightToEven n (top - 52)
      ((top + 1022) <<< 52) + scaled

def ofNat (n : Nat) : Float := Float.ofBits (natBits n).toUInt64

def ofInt (n : Int) : Float :=
  if n < 0 then Float.ofBits ((1 <<< 63) + natBits n.natAbs).toUInt64 else ofNat n.natAbs

def trunc (x : Float) : Float :=
  if 1075 ≤ shift x then x else ofInt (truncate x)

def round (x : Float) : Float :=
  if 1075 ≤ shift x then x else ofInt (nearest x)

def clamp (low high n : Int) : Int := max low (min high n)

def saturate (n : Int) : Int := clamp Int64.minValue.toInt Int64.maxValue.toInt n

def truncate64 (x : Float) : Int := saturate (truncate x)

def tenPower (n : Nat) : Float :=
  go n 10 1
where
  go (n : Nat) (base acc : Float) : Float :=
    if n = 0 then acc
    else
      let acc := if n % 2 = 1 then acc * base else acc
      if n / 2 = 0 then acc else go (n / 2) (base * base) acc
  termination_by n

end Spreadsheet.Binary64
