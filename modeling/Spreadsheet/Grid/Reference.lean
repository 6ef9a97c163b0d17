import Spreadsheet.Grid.Column
import Spreadsheet.Text.Blank

namespace Spreadsheet

structure CellRef extends Position where
  rowFixed : Bool := false
  columnFixed : Bool := false
deriving DecidableEq, Inhabited

namespace CellRef

def ofPosition (p : Position) : CellRef := { toPosition := p }

def movedTo (ref : CellRef) (p : Position) : CellRef := { ref with toPosition := p }

def marker (fixed : Bool) : List Char := if fixed then ['$'] else []

def write (ref : CellRef) : List Char :=
  marker ref.columnFixed ++ columnLetters ref.column ++
    (marker ref.rowFixed ++ Nat.toDigits 10 (ref.row + 1))

def splitMarker : List Char → Bool × List Char
  | '$' :: rest => (true, rest)
  | cs => (false, cs)

def parseRow (text : String) (digits : List Char) : Except AddressFault Nat :=
  if digits = [] then .error (.noRow text)
  else if ¬ digits.all Char.isDigit then .error (.badRow text)
  else
    let number := Nat.ofDigitChars 10 digits 0
    if rowWordBound ≤ number then .error (.badRow text)
    else if number = 0 then .error (.rowZero text)
    else if maxRows < number then .error (.rowTooFar number text)
    else .ok (number - 1)

def parse (cs : List Char) : Except AddressFault CellRef :=
  let cs := Text.trimBlanks cs
  let text := String.ofList cs
  if cs = [] then .error .empty
  else
    let (columnFixed, rest) := splitMarker cs
    let letters := rest.takeWhile Char.isAlpha
    let rest := rest.dropWhile Char.isAlpha
    if letters = [] then .error (.noColumn text)
    else
      (columnIndex letters).bind fun column =>
        let (rowFixed, digits) := splitMarker rest
        (parseRow text digits).map fun row => { row, column, rowFixed, columnFixed }

end CellRef

def Position.write (p : Position) : String := String.ofList (CellRef.ofPosition p).write

end Spreadsheet
