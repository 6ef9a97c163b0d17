import Spreadsheet.Eval.Value
import Spreadsheet.Number.Fixed

namespace Spreadsheet.Aggregate

def cellNumber? : CellValue → Answer (Option Float)
  | .number x => .ok (some x)
  | .error code => .error code
  | _ => .ok none

def argNumbers : FormulaValue → Answer (List Float)
  | .table rows => (rows.flatten.mapM cellNumber?).map fun xs => xs.filterMap id
  | v => v.toNumber.map fun x => [x]

def numbers (args : List FormulaValue) : Answer (List Float) :=
  (args.mapM argNumbers).map List.flatten

def total (xs : List Float) : Float := xs.foldl (· + ·) 0

def mean (xs : List Float) : Answer Float :=
  if xs.isEmpty then .error .divideByZero else .ok (total xs / Binary64.ofNat xs.length)

def smaller (x y : Float) : Float := if x.isNaN then y else if y < x then y else x

def greater (x y : Float) : Float := if x.isNaN then y else if x < y then y else x

def reduce (f : Float → Float → Float) : List Float → Float
  | [] => 0
  | x :: xs => xs.foldl f x

def least (xs : List Float) : Float := reduce smaller xs

def greatest (xs : List Float) : Float := reduce greater xs

/-- How many numbers an argument has. A scalar counts too if it is a boolean or a text that spells
a number. -/
def countOf : FormulaValue → Nat
  | .table rows => rows.flatten.countP fun v => match v with
    | .number _ => true
    | _ => false
  | .scalar (.number _) => 1
  | .scalar (.boolean _) => 1
  | .scalar (.text s) => if (readNumber s).isSome then 1 else 0
  | _ => 0

def count (args : List FormulaValue) : Nat :=
  args.foldl (fun total arg => total + countOf arg) 0

def roundTo (number digits : FormulaValue) : Answer Float := do
  let x ← number.toNumber
  let d ← digits.toNumber
  return Decimal.roundHalfAway x (Binary64.trunc d)

end Spreadsheet.Aggregate
