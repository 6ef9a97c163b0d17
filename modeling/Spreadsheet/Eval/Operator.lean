import Spreadsheet.Eval.Compare
import Spreadsheet.Formula.Expr

namespace Spreadsheet

def finiteNumber (x : Float) : Answer Float := if x.isFinite then .ok x else .error .badNumber

namespace BinaryOp

def arithmetic (op : BinaryOp) (x y : Float) : Answer Float :=
  match op with
  | add => finiteNumber (x + y)
  | subtract => finiteNumber (x - y)
  | multiply => finiteNumber (x * y)
  | divide => if y == 0 then .error .divideByZero else finiteNumber (x / y)
  | power => if x == 0 && y < 0 then .error .divideByZero else finiteNumber (Float.pow x y)
  | _ => .error .wrongType

def accepts : BinaryOp → Ordering → Bool
  | equal, o => o == .eq
  | notEqual, o => o != .eq
  | less, o => o == .lt
  | lessEqual, o => o != .gt
  | greater, o => o == .gt
  | greaterEqual, o => o != .lt
  | _, _ => false

def applyScalars (op : BinaryOp) (left right : CellValue) : Answer CellValue :=
  match op with
  | add | subtract | multiply | divide | power => do
    let x ← left.toNumber
    let y ← right.toNumber
    (op.arithmetic x y).map .number
  | concat => do
    let s ← left.toText
    let t ← right.toText
    return .text (s ++ t)
  | equal | notEqual | less | lessEqual | greater | greaterEqual =>
    .ok (.boolean (op.accepts (left.compare right)))

def apply (op : BinaryOp) (left right : FormulaValue) : FormulaValue :=
  .ofAnswer .scalar do
    let v ← left.toScalar
    let w ← right.toScalar
    op.applyScalars v w

end BinaryOp

def FormulaValue.negate (v : FormulaValue) : FormulaValue := .ofAnswer .number (v.toNumber.map (-·))

end Spreadsheet
