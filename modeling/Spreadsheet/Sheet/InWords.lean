import Spreadsheet.Formula.InWords
import Spreadsheet.Sheet.Recalc

namespace Spreadsheet

/-- Work that may be refused, and that has no answer at all once a number is no word. -/
abbrev InWords : Type → Type := ExceptT GridError Option

namespace InWords
variable {α : Type}

def demand (x : Except GridError α) : InWords α := ExceptT.mk (some x)

end InWords

def openedAtInWords (bound k i : Nat) : Option Nat := if i < k then some i else wordSum bound i 1

def closedAtInWords (k i : Nat) : Option (Option Nat) :=
  if i < k then some (some i)
  else if i = k then some none
  else (wordDifference i 1).map some

namespace CellStore

def relocateInWords (f : Position → Option (Option Position)) (s : CellStore) : Option CellStore := do
  let moved ← s.toList.mapM fun (p, c) => return (← f p).map fun q => (q, c)
  return .ofList (moved.filterMap id)

def insertLineInWords (s : CellStore) (axis : Axis) (k : Nat) : Option CellStore :=
  s.relocateInWords fun p =>
    (openedAtInWords axis.wordBound k (p.along axis)).map fun i => some (p.withAlong axis i)

def deleteLineInWords (s : CellStore) (axis : Axis) (k : Nat) : Option CellStore :=
  s.relocateInWords fun p =>
    (closedAtInWords k (p.along axis)).map (Option.map (p.withAlong axis))

end CellStore

namespace Matrix

/-- Where text is stored, the numbers of rows and columns up to it are added up first. -/
def setRawInWords (m : Matrix) (p : Position) (raw : String) : InWords Matrix := do
  .demand (m.limits.check p)
  if raw = "" then return m.remove p
  let rows ← wordSum rowWordBound p.row 1
  let columns ← wordSum columnWordBound p.column 1
  return { m with
    cells := m.cells.insert p (.ofRaw raw)
    rows := max m.rows rows
    columns := max m.columns columns }

def checkPushedInWords (m : Matrix) (axis : Axis) (k : Nat) : InWords Unit :=
  match m.cells.bounds with
  | some b =>
    if k ≤ b.last axis then do
      .demand (m.limits.checkLine axis (← wordSum axis.wordBound (b.last axis) 1))
    else return
  | none => return

/-- The new size is added up before it is cut at the limit. -/
def insertLineInWords (m : Matrix) (axis : Axis) (k : Nat) : InWords Matrix := do
  .demand (m.limits.checkLine axis k)
  m.checkPushedInWords axis k
  let cells ← m.cells.insertLineInWords axis k
  let shifted := { m with cells }
  if k < m.size axis then
    let size ← wordSum axis.wordBound (m.size axis) 1
    return shifted.withSize axis (min size (m.limits.along axis))
  else return shifted

def deleteLineInWords (m : Matrix) (axis : Axis) (k : Nat) : InWords Matrix := do
  .demand (m.limits.checkLine axis k)
  let cells ← m.cells.deleteLineInWords axis k
  let shifted := { m with cells }
  if k < m.size axis then
    let size ← wordDifference (m.size axis) 1
    return shifted.withSize axis size
  else return shifted

def editLineInWords (m : Matrix) : LineEdit → InWords Matrix
  | .insert axis k => m.insertLineInWords axis k
  | .delete axis k => m.deleteLineInWords axis k

end Matrix

namespace Sheet

def attachInWords (forced : Bool) (s : Sheet) (p : Position) : Option Sheet :=
  match parseFormula (s.matrix.raw p) with
  | .error _ => some (s.attach forced p)
  | .ok e => (e.precedentsInWords s.limits).map fun _ => s.attach forced p

def retryCellInWords (state : Sheet × List Position) (p : Position) :
    Option (Sheet × List Position) :=
  match state.1.circular[p]? with
  | none => some state
  | some e => (e.precedentsInWords state.1.limits).map fun _ => retryCell state p

def rebuildInWords (s : Sheet) (circular : List Position) : Option Sheet := do
  let forced : PositionSet := .ofList circular
  let keys := s.matrix.formulaCells
  let bare := { s with graph := .empty, formulas := ∅, circular := ∅ }
  let s ← (keys.filter fun p => !forced.contains p).foldlM (attachInWords false) bare
  let s ← (keys.filter forced.contains).foldlM (attachInWords true) s
  let (s, _) ← s.circularCells.foldlM retryCellInWords (s, [])
  return s

def moveTextInWords (edit : LineEdit) (raw : String) : Option String :=
  if isFormulaText raw then
    match parseFormula raw with
    | .ok e => (e.moved?InWords edit).map fun moved => (moved.map Expr.writeFormula).getD raw
    | .error _ => some raw
  else some raw

def moveTextsInWords (edit : LineEdit) (cells : CellStore) : Option CellStore := do
  let moved ← cells.toList.mapM fun (p, c) =>
    return (p, { c with raw := ← moveTextInWords edit c.raw })
  return .ofList moved

def editLineInWords (s : Sheet) (edit : LineEdit) : InWords Sheet := do
  let circular : List (Option Position) ← liftM (s.circularCells.mapM edit.movePositionInWords)
  let m ← s.matrix.editLineInWords edit
  let cells ← moveTextsInWords edit m.cells
  { s with matrix := { m with cells } }.rebuildInWords (circular.filterMap id)

/-- Evaluating a formula counts the lines of the ranges that it reads. The inner `Option` is that of
the recalculation. -/
def recalcAllInWords (s : Sheet) (cancelled : Bool) : Option (Option (Sheet × RecalcStats)) :=
  (s.formulas.toList.forM fun (_, e) => e.countInWords s.limits).map fun _ => s.recalcAll cancelled

end Sheet

end Spreadsheet
