import Spreadsheet.Number.Binary64

/-!
# The fewest decimal digits that read back

Each finite number has an interval of reals that round to it, ends included when its significand is
even. `shortest` looks for a decimal `d * 10 ^ g` in that interval on ever finer grids, starting
with one digit: the first grid that has a point in the interval gives the answer, the nearer of two
points wins, and of two equally near ones the greater.
-/

namespace Spreadsheet.Decimal

def digitsOf (n : Nat) : List Char := Nat.toDigits 10 n

def powerOfTen (n : Nat) : Nat := Nat.pow 10 n

def digitCount (n : Nat) : Nat := (digitsOf n).length

def stripZeros (d : Nat) (g : Int) : Nat × Int :=
  let digits := digitsOf d
  let kept := (digits.reverse.dropWhile (· == '0')).reverse
  (Nat.ofDigitChars 10 kept 0, g + (digits.length - kept.length : Nat))

def scaleByTen (num den : Nat) (e : Int) : Nat × Nat :=
  if 0 ≤ e then (num * powerOfTen e.toNat, den) else (num, den * powerOfTen (-e).toNat)

def leadingExponent (num den : Nat) : Int :=
  if den ≤ num then (digitCount (num / den) : Int) - 1
  else -(digitCount ((den + num - 1) / num - 1) : Int)

/-- A point of the grid of step `10 ^ g` in the interval from `low / den` to `high / den` around
`num / den`, if there is one: the nearer of the two neighbours of the middle, as a multiple of the
step. The ends belong to the interval when `closed` holds. -/
def gridPoint (low num high den : Nat) (closed : Bool) (g : Int) : Option Nat :=
  let (num, unit) := scaleByTen num den (-g)
  let (low, _) := scaleByTen low den (-g)
  let (high, _) := scaleByTen high den (-g)
  let d := num / unit
  let inside (d : Nat) : Bool :=
    if closed then low ≤ d * unit && d * unit ≤ high else low < d * unit && d * unit < high
  match inside d, inside (d + 1) with
  | true, true => if 2 * (num - d * unit) < unit then some d else some (d + 1)
  | true, false => some d
  | false, true => some (d + 1)
  | false, false => none

def searchGrids (low num high den : Nat) (closed : Bool) (lead : Int) :
    (count tries : Nat) → Option (Nat × Int)
  | _, 0 => none
  | count, tries + 1 =>
    let g := lead - count + 1
    match gridPoint low num high den closed g with
    | some d => some (d, g)
    | none => searchGrids low num high den closed lead (count + 1) tries

/-- The decimal `d * 10 ^ g` with the fewest digits that reads back as `m * 2 ^ (shift - 1075)`, for
`0 < m`. `narrow` says that the next smaller number is only half a step away. -/
def shortestOf (m shift : Nat) (narrow : Bool) : Nat × Int :=
  let (scale, den) :=
    if 1077 ≤ shift then (1 <<< (shift - 1077), 1) else (1, 1 <<< (1077 - shift))
  let num := 4 * m * scale
  let low := (if narrow then 4 * m - 1 else 4 * m - 2) * scale
  let high := (4 * m + 2) * scale
  let lead := leadingExponent num den
  (searchGrids low num high den (m % 2 == 0) lead 1 17).getD (num / den, 0)

def shortest (x : Float) : Nat × Int :=
  let (d, g) := shortestOf (Binary64.significand x) (Binary64.shift x)
    (Binary64.fractionField x == 0 && 1 < Binary64.exponentField x)
  stripZeros d g

end Spreadsheet.Decimal
