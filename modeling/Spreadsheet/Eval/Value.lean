import Spreadsheet.Cell.Value

namespace Spreadsheet

inductive FormulaValue
  | scalar (v : CellValue)
  | table (rows : List (List CellValue))
deriving Inhabited

abbrev Answer (α : Type) := Except ErrorCode α

namespace FormulaValue

def number (x : Float) : FormulaValue := .scalar (.number x)

def text (s : String) : FormulaValue := .scalar (.text s)

def boolean (b : Bool) : FormulaValue := .scalar (.boolean b)

def error (code : ErrorCode) : FormulaValue := .scalar (.error code)

def ofAnswer {α : Type} (f : α → FormulaValue) : Answer α → FormulaValue
  | .ok a => f a
  | .error code => error code

def errorCode? : FormulaValue → Option ErrorCode
  | scalar v => v.errorCode?
  | table _ => none

def scalars : FormulaValue → List CellValue
  | scalar v => [v]
  | table rows => rows.flatten

def firstError? (v : FormulaValue) : Option ErrorCode := v.scalars.findSome? CellValue.errorCode?

/-- The value as the content of a cell: a blank counts as 0 and a table has no single value. -/
def toCell : FormulaValue → CellValue
  | scalar .empty => .number 0
  | scalar v => v
  | table _ => .error .wrongType

end FormulaValue

namespace CellValue

def toNumber : CellValue → Answer Float
  | number x => .ok x
  | boolean b => .ok (if b then 1 else 0)
  | empty => .ok 0
  | text s => match readNumber s with
    | some x => .ok x
    | none => .error .wrongType
  | error code => .error code

def toBoolean : CellValue → Answer Bool
  | boolean b => .ok b
  | number x => .ok (x != 0)
  | empty => .ok false
  | text s =>
    if s = "" then .ok false
    else match readBoolean s with
      | some b => .ok b
      | none => .error .wrongType
  | error code => .error code

def toText : CellValue → Answer String
  | error code => .error code
  | v => .ok v.display

end CellValue

namespace FormulaValue

def toScalar : FormulaValue → Answer CellValue
  | scalar (.error code) => .error code
  | scalar v => .ok v
  | table _ => .error .wrongType

def toNumber (v : FormulaValue) : Answer Float := v.toScalar.bind CellValue.toNumber

def toBoolean (v : FormulaValue) : Answer Bool := v.toScalar.bind CellValue.toBoolean

def toText (v : FormulaValue) : Answer String := v.toScalar.bind CellValue.toText

def grid : FormulaValue → List (List CellValue)
  | scalar v => [[v]]
  | table rows => rows

end FormulaValue

end Spreadsheet
