import Spreadsheet.Eval.Value
import Spreadsheet.Text.Case

namespace Spreadsheet

/-- The order of two numbers; equal if one of them is no number. -/
def compareNumbers (x y : Float) : Ordering :=
  if x < y then .lt else if y < x then .gt else .eq

def compareTexts (s t : String) : Ordering :=
  compareOfLessAndEq (Text.lower s) (Text.lower t)

namespace CellValue

def rank : CellValue → Nat
  | number _ => 0
  | empty => 0
  | text _ => 1
  | boolean _ => 2
  | error _ => 3

def compare : CellValue → CellValue → Ordering
  | empty, empty => .eq
  | number x, number y => compareNumbers x y
  | number x, empty => compareNumbers x 0
  | empty, number y => compareNumbers 0 y
  | text s, text t => compareTexts s t
  | text s, empty => if s = "" then .eq else .gt
  | empty, text t => if t = "" then .eq else .lt
  | boolean b, boolean c => Ord.compare b.toNat c.toNat
  | boolean b, empty => Ord.compare b.toNat 0
  | empty, boolean c => Ord.compare 0 c.toNat
  | v, w => Ord.compare v.rank w.rank

end CellValue

def FormulaValue.compare : FormulaValue → FormulaValue → Ordering
  | scalar v, scalar w => v.compare w
  | scalar v, table _ => Ord.compare v.rank 3
  | table _, scalar w => Ord.compare 3 w.rank
  | table _, table _ => .eq

end Spreadsheet
