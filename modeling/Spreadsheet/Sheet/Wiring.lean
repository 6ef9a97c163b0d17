import Spreadsheet.Sheet.Basic

/-!
# Wiring formulas into a sheet

A formula is read from its raw text and ends up in one of three states: text that is no formula
leaves an error and a diagnostic, a formula that would close a cycle is kept aside as circular, and
any other is accepted into the graph and awaits recalculation. After every change the circular
formulas are tried once more, row by row, since the change may have broken their cycles.
-/

namespace Spreadsheet.Sheet

def circularDiagnostic : String :=
  "Circular reference: the formula depends on its own result"

def detach (s : Sheet) (p : Position) : Sheet :=
  { s with
    graph := s.graph.removePrecedents p
    formulas := s.formulas.erase p
    circular := s.circular.erase p }

def showError (s : Sheet) (p : Position) (code : ErrorCode) (diagnostic : String) : Sheet :=
  { s with matrix := (s.matrix.setValue p (.error code)).setDiagnostic p (some diagnostic) }

def accept (s : Sheet) (p : Position) (e : Expr) : Sheet :=
  { s with
    matrix := (s.matrix.setDiagnostic p none).markDirty p
    formulas := s.formulas.insert p e
    graph := s.graph.setPrecedents p (e.precedents s.limits) }

def refuse (s : Sheet) (p : Position) (e : Expr) : Sheet :=
  let s := s.showError p .circular circularDiagnostic
  { s with circular := s.circular.insert p e }

def closesCycle (s : Sheet) (p : Position) (e : Expr) : Bool :=
  s.graph.wouldCreateCycle p (e.precedents s.limits)

/-- Reads the formula stored at a cell and wires it in; a forced one is taken as circular without
being checked. -/
def attach (s : Sheet) (forced : Bool) (p : Position) : Sheet :=
  match parseFormula (s.matrix.raw p) with
  | .error fault => s.showError p fault.code fault.message
  | .ok e => if forced || s.closesCycle p e then s.refuse p e else s.accept p e

def retryCell (state : Sheet × List Position) (p : Position) : Sheet × List Position :=
  let (s, healed) := state
  match s.circular[p]? with
  | none => state
  | some e =>
    if s.closesCycle p e then state
    else ({ s with circular := s.circular.erase p }.accept p e, healed ++ [p])

def retryCircular (s : Sheet) : Sheet × List Position := s.circularCells.foldl retryCell (s, [])

def writeCell (s : Sheet) (p : Position) (raw : String) : Sheet :=
  let s := { s with matrix := s.matrix.put p raw }.detach p
  if isFormulaText raw then s.attach false p else s

def writeCells (s : Sheet) (edits : List (Position × String)) : Sheet × List Position :=
  let (s, healed) := (edits.foldl (fun s edit => s.writeCell edit.1 edit.2) s).retryCircular
  (s, edits.map (·.1) ++ healed)

/-- Stores texts unless a position lies beyond the limits, which is refused before anything is
stored. -/
def write (s : Sheet) (edits : List (Position × String)) :
    Except GridError (Sheet × List Position) :=
  ((edits.map (·.1)).forM s.limits.check).map fun _ => s.writeCells edits

/-- Reads every formula again. The listed cells are taken as circular, the others are accepted row
by row where they can be, and then the circular ones are tried once more. -/
def rebuild (s : Sheet) (circular : List Position) : Sheet :=
  let forced : PositionSet := .ofList circular
  let keys := s.matrix.formulaCells
  let bare := { s with graph := .empty, formulas := ∅, circular := ∅ }
  let s := (keys.filter fun p => !forced.contains p).foldl (attach · false) bare
  let s := (keys.filter forced.contains).foldl (attach · true) s
  s.retryCircular.1

def ofMatrix (m : Matrix) (circular : List Position) : Sheet :=
  { matrix := m : Sheet }.rebuild circular

def create (name : String) (limits : Limits) : Except GridError Sheet :=
  (Matrix.create name limits).map fun m => ofMatrix m []

def ofSnapshot (snapshot : MatrixSnapshot) (limits : Limits) : Except GridError Sheet :=
  (snapshot.toMatrix limits).map fun m => ofMatrix m snapshot.circular

/-- The text of a cell with its references moved. Text that is no formula, and a formula none of
whose references moves, stay as they are. -/
def moveText (edit : LineEdit) (raw : String) : String :=
  if isFormulaText raw then
    match parseFormula raw with
    | .ok e => ((e.moved? edit).map Expr.writeFormula).getD raw
    | .error _ => raw
  else raw

/-- Inserts or deletes a line: shifts the cells, moves the references of every formula and wires all
of them in again. Circular formulas move along and stay circular. -/
def editLine (s : Sheet) (edit : LineEdit) : Except GridError Sheet :=
  (s.matrix.editLine edit).map fun m =>
    let cells := m.cells.map fun _ c => { c with raw := moveText edit c.raw }
    { s with matrix := { m with cells } }.rebuild (s.circularCells.filterMap edit.movePosition)

end Spreadsheet.Sheet
