import Spreadsheet.Eval.Value

namespace Spreadsheet.TextPart

def takeCount : Option FormulaValue → Answer Nat
  | none => .ok 1
  | some v => do
    let x ← v.toNumber
    if Binary64.trunc x < 0 then .error .wrongType else .ok (Binary64.truncate x).toNat

def takeLeft (n : Nat) (s : String) : String := String.ofList (s.toList.take n)

def takeRight (n : Nat) (s : String) : String :=
  String.ofList (s.toList.drop (s.toList.length - n))

def take (part : Nat → String → String) (v : FormulaValue) (n : Option FormulaValue) :
    Answer String := do
  let s ← v.toText
  return part (← takeCount n) s

def join (args : List FormulaValue) : Answer String :=
  ((args.flatMap FormulaValue.scalars).mapM CellValue.toText).map String.join

end Spreadsheet.TextPart
