import Spreadsheet.Cell.ErrorCode
import Spreadsheet.Number.Notation
import Spreadsheet.Text.Blank

namespace Spreadsheet

inductive CellValue
  | empty
  | number (x : Float)
  | text (s : String)
  | boolean (b : Bool)
  | error (code : ErrorCode)
deriving Inhabited

def readNumber (s : String) : Option Float := Decimal.readFinite (Text.trimBlanks s.toList)

def booleanText (b : Bool) : String := if b then "TRUE" else "FALSE"

def readBoolean (s : String) : Option Bool :=
  [true, false].find? fun b => Text.sameIgnoringCase (booleanText b) s

namespace CellValue

def ofLiteral (raw : String) : CellValue :=
  if raw = "" then empty
  else
    match readNumber raw, readBoolean (Text.trim raw) with
    | some x, _ => number x
    | none, some b => boolean b
    | none, none => text raw

def isEmpty : CellValue → Bool
  | empty => true
  | _ => false

def errorCode? : CellValue → Option ErrorCode
  | error code => some code
  | _ => none

def isError (v : CellValue) : Bool := v.errorCode?.isSome

def asNumber? : CellValue → Option Float
  | number x => some x
  | boolean b => some (if b then 1 else 0)
  | _ => none

def asBoolean? : CellValue → Option Bool
  | boolean b => some b
  | number x => some (x != 0)
  | _ => none

def asText? : CellValue → Option String
  | text s => some s
  | _ => none

def kind : CellValue → String
  | empty => "empty"
  | number _ => "number"
  | text _ => "text"
  | boolean _ => "boolean"
  | error _ => "error"

def display : CellValue → String
  | empty => ""
  | number x => Decimal.write x
  | text s => s
  | boolean b => booleanText b
  | error code => code.write

end CellValue

end Spreadsheet
