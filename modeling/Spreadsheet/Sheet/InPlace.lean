import Spreadsheet.Data.InPlace
import Spreadsheet.Sheet.History

namespace Spreadsheet

namespace Matrix

def setRawInPlace (p : Position) (raw : String) : InPlace Matrix Unit := do
  .demand ((← get).limits.check p)
  modify (·.put p raw)

def setTextsInPlace (texts : List (Position × String)) : InPlace Matrix Unit :=
  texts.forM fun (p, raw) => setRawInPlace p raw

def setDimensionsInPlace (rows columns : Nat) : InPlace Matrix Unit := do
  let m ← get
  if m.limits.rows < rows then throw (.rowOutOfRange rows m.limits.rows)
  if m.limits.columns < columns then throw (.columnOutOfRange columns m.limits.columns)
  if let some b := m.cells.bounds then
    if rows ≤ b.maxRow ∨ columns ≤ b.maxColumn then
      throw (.uncovered rows columns b.maxRow b.maxColumn)
  set { m with rows, columns }

def insertLineInPlace (axis : Axis) (k : Nat) : InPlace Matrix Unit := do
  let m ← get
  .demand (m.limits.checkLine axis k)
  if let some b := m.cells.bounds then
    if k ≤ b.last axis then .demand (m.limits.checkLine axis (b.last axis + 1))
  modify fun m => { m with cells := m.cells.insertLine axis k }
  if k < m.size axis then modify (·.withSize axis (min (m.size axis + 1) (m.limits.along axis)))

def deleteLineInPlace (axis : Axis) (k : Nat) : InPlace Matrix Unit := do
  let m ← get
  .demand (m.limits.checkLine axis k)
  modify fun m => { m with cells := m.cells.deleteLine axis k }
  if k < m.size axis then modify (·.withSize axis (m.size axis - 1))

def editLineInPlace : LineEdit → InPlace Matrix Unit
  | .insert axis k => insertLineInPlace axis k
  | .delete axis k => deleteLineInPlace axis k

end Matrix

namespace Sheet

def onMatrix {α : Type} (work : InPlace Matrix α) : InPlace Sheet α :=
  work.onPart Sheet.matrix fun s matrix => { s with matrix }

def writeCellInPlace (p : Position) (raw : String) : InPlace Sheet Unit := do
  onMatrix (Matrix.setRawInPlace p raw)
  modify (·.detach p)
  if isFormulaText raw then modify (·.attach false p)

/-- All positions are checked before the first text is stored. -/
def writeInPlace (edits : List (Position × String)) : InPlace Sheet (List Position) := do
  let limits := (← get).limits
  (edits.map (·.1)).forM fun p => .demand (limits.check p)
  edits.forM fun (p, raw) => writeCellInPlace p raw
  let (s, healed) := (← get).retryCircular
  set s
  return edits.map (·.1) ++ healed

/-- The circular formulas are moved before the line edit may be refused. -/
def editLineInPlace (edit : LineEdit) : InPlace Sheet Unit := do
  let circular := (← get).circularCells.filterMap edit.movePosition
  onMatrix (Matrix.editLineInPlace edit)
  onMatrix (modify fun m => { m with cells := m.cells.map fun _ c => { c with raw := moveText edit c.raw } })
  modify (·.rebuild circular)

def restoreInPlace (step : Step) : InPlace Sheet Unit := do
  match step.change with
  | .cells texts => onMatrix (Matrix.setTextsInPlace texts)
  | .matrix snapshot =>
    onMatrix (modify Matrix.clear)
    onMatrix (Matrix.setTextsInPlace snapshot.cells)
  onMatrix (Matrix.setDimensionsInPlace step.rows step.columns)
  modify (·.rebuild step.circular)

def recalcInPlace (recalc : Sheet → Option (Sheet × RecalcStats)) : Execution Sheet RecalcStats := do
  let (s, stats) ← .demand (.ofOption (recalc (← get)))
  set s
  return stats

end Sheet

end Spreadsheet
