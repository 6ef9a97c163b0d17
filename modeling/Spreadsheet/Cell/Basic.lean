import Spreadsheet.Cell.Value

namespace Spreadsheet

def isFormulaText (raw : String) : Bool := raw.toList.head? == some '='

structure Cell where
  raw : String
  value : CellValue
  dirty : Bool := false
  diagnostic : Option String := none
deriving Inhabited

namespace Cell

def ofRaw (raw : String) : Cell :=
  if isFormulaText raw then { raw, value := .empty, dirty := true }
  else { raw, value := .ofLiteral raw }

def isFormula (c : Cell) : Bool := isFormulaText c.raw

end Cell

end Spreadsheet
