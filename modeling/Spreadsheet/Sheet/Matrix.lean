import Spreadsheet.Cell.Store
import Spreadsheet.Grid.Fault

namespace Spreadsheet

def maxNameLength : Nat := 64

def checkMatrixName (name : String) : Except GridError Unit :=
  let cs := name.toList
  if cs = [] ∨ Text.trimBlanks cs ≠ cs ∨ maxNameLength < cs.length then
    .error (.badMatrixName name)
  else .ok ()

structure Matrix where
  name : String
  limits : Limits
  cells : CellStore := ∅
  rows : Nat := 0
  columns : Nat := 0

namespace Matrix

def create (name : String) (limits : Limits) : Except GridError Matrix :=
  (checkMatrixName name).map fun _ => { name, limits }

def value (m : Matrix) (p : Position) : CellValue := m.cells[p]?.elim .empty Cell.value

def raw (m : Matrix) (p : Position) : String := m.cells[p]?.elim "" Cell.raw

def setDimensions (m : Matrix) (rows columns : Nat) : Except GridError Matrix :=
  if m.limits.rows < rows then .error (.rowOutOfRange rows m.limits.rows)
  else if m.limits.columns < columns then .error (.columnOutOfRange columns m.limits.columns)
  else
    match m.cells.bounds with
    | some b =>
      if rows ≤ b.maxRow ∨ columns ≤ b.maxColumn then
        .error (.uncovered rows columns b.maxRow b.maxColumn)
      else .ok { m with rows, columns }
    | none => .ok { m with rows, columns }

/-- Stores text at a position within the limits; empty text takes the cell away and leaves the
dimensions alone. -/
def put (m : Matrix) (p : Position) (raw : String) : Matrix :=
  if raw = "" then { m with cells := m.cells.erase p }
  else
    { m with
      cells := m.cells.insert p (.ofRaw raw)
      rows := max m.rows (p.row + 1)
      columns := max m.columns (p.column + 1) }

def setRaw (m : Matrix) (p : Position) (raw : String) : Except GridError Matrix :=
  (m.limits.check p).map fun _ => m.put p raw

def remove (m : Matrix) (p : Position) : Matrix := { m with cells := m.cells.erase p }

def update (m : Matrix) (p : Position) (f : Cell → Cell) : Matrix :=
  match m.cells[p]? with
  | some c => { m with cells := m.cells.insert p (f c) }
  | none => m

def setValue (m : Matrix) (p : Position) (value : CellValue) : Matrix :=
  m.update p fun c => { c with value, dirty := false }

def markDirty (m : Matrix) (p : Position) : Matrix := m.update p fun c => { c with dirty := true }

def setDiagnostic (m : Matrix) (p : Position) (diagnostic : Option String) : Matrix :=
  m.update p fun c => { c with diagnostic }

def dirtyCells (m : Matrix) : List Position :=
  (m.cells.toList.filter fun (_, c) => c.dirty).map (·.1)

def formulaCells (m : Matrix) : List Position :=
  (m.cells.toList.filter fun (_, c) => c.isFormula).map (·.1)

def clear (m : Matrix) : Matrix := { m with cells := ∅, rows := 0, columns := 0 }

def size (m : Matrix) : Axis → Nat
  | .row => m.rows
  | .column => m.columns

def withSize (m : Matrix) (axis : Axis) (n : Nat) : Matrix :=
  match axis with
  | .row => { m with rows := n }
  | .column => { m with columns := n }

/-- Inserts an empty line. Refused beyond the limits, and when a cell would be pushed out of
them. -/
def insertLine (m : Matrix) (axis : Axis) (k : Nat) : Except GridError Matrix :=
  (m.limits.checkLine axis k).bind fun _ =>
    let pushed : Except GridError Unit :=
      match m.cells.bounds with
      | some b => if k ≤ b.last axis then m.limits.checkLine axis (b.last axis + 1) else .ok ()
      | none => .ok ()
    pushed.map fun _ =>
      let shifted := { m with cells := m.cells.insertLine axis k }
      if k < m.size axis then shifted.withSize axis (min (m.size axis + 1) (m.limits.along axis))
      else shifted

def deleteLine (m : Matrix) (axis : Axis) (k : Nat) : Except GridError Matrix :=
  (m.limits.checkLine axis k).map fun _ =>
    let shifted := { m with cells := m.cells.deleteLine axis k }
    if k < m.size axis then shifted.withSize axis (m.size axis - 1) else shifted

def editLine (m : Matrix) : LineEdit → Except GridError Matrix
  | .insert axis k => m.insertLine axis k
  | .delete axis k => m.deleteLine axis k

end Matrix

end Spreadsheet
