import Spreadsheet.Sheet.Recalc

/-!
# Steps of the history

A step records what a sheet was like before an edit: the raw texts of the cells that the edit
touched, or all of them, with the dimensions and the circular formulas. Restoring a step first
records the present state in the same shape, which is the step that leads back.

`History` keeps two stacks of steps, each bounded by dropping the oldest.
-/

namespace Spreadsheet

inductive Change
  /-- Raw texts of some cells; an empty one stands for no cell. -/
  | cells (texts : List (Position × String))
  | matrix (snapshot : MatrixSnapshot)

structure Step where
  description : String
  matrix : String
  change : Change
  rows : Nat
  columns : Nat
  circular : List Position

def Step.cellCount (step : Step) : Nat :=
  match step.change with
  | .cells texts => texts.length
  | .matrix snapshot => snapshot.cells.length

namespace Sheet

def record (s : Sheet) (description : String) (change : Change) : Step where
  description := description
  matrix := s.name
  change := change
  rows := s.matrix.rows
  columns := s.matrix.columns
  circular := s.circularCells

def recordCells (s : Sheet) (description : String) (ps : List Position) : Step :=
  let keys : PositionSet := .ofList ps
  s.record description (.cells (keys.toList.map fun p => (p, s.matrix.raw p)))

def recordMatrix (s : Sheet) (description : String) : Step :=
  s.record description (.matrix s.snapshot)

def inverseOf (s : Sheet) (step : Step) : Step :=
  match step.change with
  | .cells texts => s.recordCells step.description (texts.map (·.1))
  | .matrix _ => s.recordMatrix step.description

def restoreMatrix (m : Matrix) (step : Step) : Except GridError Matrix := do
  let m ← match step.change with
    | .cells texts => m.setTexts texts
    | .matrix snapshot => m.clear.setTexts snapshot.cells
  m.setDimensions step.rows step.columns

/-- Puts back the state of a step. Every accepted formula awaits recalculation. -/
def restore (s : Sheet) (step : Step) : Except GridError Sheet :=
  (restoreMatrix s.matrix step).map fun m => { s with matrix := m }.rebuild step.circular

end Sheet

structure History where
  undos : List Step := []
  redos : List Step := []
  max : Nat := 100

namespace History

def pushBounded (max : Nat) (step : Step) (steps : List Step) : List Step :=
  (step :: steps).take max

def push (h : History) (step : Step) : History :=
  { h with undos := pushBounded h.max step h.undos, redos := [] }

def pushUndo (h : History) (step : Step) : History :=
  { h with undos := pushBounded h.max step h.undos }

def pushRedo (h : History) (step : Step) : History :=
  { h with redos := pushBounded h.max step h.redos }

def popUndo (h : History) : Option Step × History :=
  (h.undos.head?, { h with undos := h.undos.tail })

def popRedo (h : History) : Option Step × History :=
  (h.redos.head?, { h with redos := h.redos.tail })

def canUndo (h : History) : Bool := !h.undos.isEmpty

def canRedo (h : History) : Bool := !h.redos.isEmpty

def undoDescription (h : History) : Option String := h.undos.head?.map Step.description

def redoDescription (h : History) : Option String := h.redos.head?.map Step.description

def forget (h : History) (matrix : String) : History :=
  { h with
    undos := h.undos.filter fun step => step.matrix != matrix
    redos := h.redos.filter fun step => step.matrix != matrix }

def clear (h : History) : History := { h with undos := [], redos := [] }

end History

end Spreadsheet
