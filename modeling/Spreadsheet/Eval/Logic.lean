import Spreadsheet.Eval.Value

namespace Spreadsheet.Logic

def cellTruth? : CellValue → Option Bool
  | .number x => some (x != 0)
  | .boolean b => some b
  | _ => none

def argTruths : FormulaValue → Answer (List Bool)
  | .table rows => .ok (rows.flatten.filterMap cellTruth?)
  | v => v.toBoolean.map fun b => [b]

def truths (args : List FormulaValue) : Answer (List Bool) := do
  let bs ← (args.mapM argTruths).map List.flatten
  if bs.isEmpty then .error .wrongType else .ok bs

def choose (condition yes no : FormulaValue) : FormulaValue :=
  match condition.toBoolean with
  | .ok true => yes
  | .ok false => no
  | .error code => .error code

def orElse (v fallback : FormulaValue) : FormulaValue :=
  if v.errorCode?.isSome then fallback else v

end Spreadsheet.Logic
