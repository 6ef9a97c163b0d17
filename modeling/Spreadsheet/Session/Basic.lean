import Spreadsheet.Data.Halt
import Spreadsheet.Sheet.History

namespace Spreadsheet

structure Options where
  limits : Limits := {}
  undoLimit : Nat := 100
deriving DecidableEq

structure Session where
  options : Options
  sheets : List Sheet := []
  history : History := { max := options.undoLimit }

inductive Reply
  | done
  | cell (view : CellView) (stats : RecalcStats)
  | stats (stats : RecalcStats)
  | applied (b : Bool)

namespace Session

def create (options : Options) : Session := { options }

def names (s : Session) : List String := s.sheets.map Sheet.name

def sheet (s : Session) (name : String) : Except GridError Sheet :=
  match s.sheets.find? fun sheet => sheet.name == name with
  | some sheet => .ok sheet
  | none => .error (.matrixNotFound name)

def replace (s : Session) (name : String) (sheet : Sheet) : Session :=
  { s with sheets := s.sheets.map fun old => if old.name == name then sheet else old }

def cell (s : Session) (name : String) (p : Position) : Attempt GridError CellView := do
  let sheet ← .ofExcept (s.sheet name)
  .ofExcept (sheet.limits.check p)
  .ofOption (sheet.view p)

def cellAt (s : Session) (name reference : String) : Attempt GridError CellView := do
  let ref ← .ofExcept ((CellRef.parse reference.toList).mapError .badAddress)
  s.cell name ref.toPosition

def snapshot (s : Session) : SessionSnapshot := ⟨s.sheets.map Sheet.snapshot⟩

def addMatrix (s : Session) (name : String) : Except GridError Session := do
  checkMatrixName name
  if s.names.contains name then .error (.duplicateMatrix name)
  let sheet ← Sheet.create name s.options.limits
  return { s with sheets := s.sheets ++ [sheet] }

def removeMatrix (s : Session) (name : String) : Except GridError Session := do
  let _ ← s.sheet name
  return { s with
    sheets := s.sheets.filter fun sheet => sheet.name != name
    history := s.history.forget name }

def writeCells (s : Session) (name description : String) (edits : List (Position × String))
    (cancelled : Bool) : Attempt GridError (Session × RecalcStats) := do
  let sheet ← .ofExcept (s.sheet name)
  let (written, roots) ← .ofExcept (sheet.write edits)
  let (sheet', stats) ← .ofOption (written.recalcFrom roots cancelled)
  let step := sheet.recordCells description (edits.map (·.1))
  return ({ s.replace name sheet' with history := s.history.push step }, stats)

def describeEdit (p : Position) (raw : String) : String :=
  (if raw = "" then "clear " else "edit ") ++ p.write

def setCell (s : Session) (name : String) (p : Position) (raw : String) (cancelled : Bool) :
    Attempt GridError (Session × CellView × RecalcStats) := do
  let (s, stats) ← s.writeCells name (describeEdit p raw) [(p, raw)] cancelled
  let sheet ← .ofExcept (s.sheet name)
  let view ← .ofOption (sheet.view p)
  return (s, view, stats)

def setCells (s : Session) (name : String) (edits : List (Position × String)) :
    Attempt GridError (Session × RecalcStats) :=
  s.writeCells name ("edit " ++ toString edits.length ++ " cells") edits false

def editLine (s : Session) (name : String) (edit : LineEdit) :
    Attempt GridError (Session × RecalcStats) := do
  let sheet ← .ofExcept (s.sheet name)
  let edited ← .ofExcept (sheet.editLine edit)
  let (sheet', stats) ← .ofOption (edited.recalcAll false)
  let step := sheet.recordMatrix edit.describe
  return ({ s.replace name sheet' with history := s.history.push step }, stats)

def recalculate (s : Session) (name : String) (cancelled : Bool) :
    Attempt GridError (Session × RecalcStats) := do
  let sheet ← .ofExcept (s.sheet name)
  let (sheet, stats) ← .ofOption (sheet.recalcAll cancelled)
  return (s.replace name sheet, stats)

def loadSheets (limits : Limits) : List Sheet → List MatrixSnapshot → Attempt GridError (List Sheet)
  | loaded, [] => .ok loaded
  | loaded, m :: rest => do
    if (loaded.map Sheet.name).contains m.name then .error (.fault (.snapshotDuplicate m.name))
    let sheet ← .ofExcept (Sheet.ofSnapshot m limits)
    let (sheet, _) ← .ofOption (sheet.recalcAll false)
    loadSheets limits (loaded ++ [sheet]) rest

def load (s : Session) (snapshot : SessionSnapshot) : Attempt GridError Session := do
  let sheets ← loadSheets s.options.limits [] snapshot.matrices
  return { s with sheets, history := s.history.clear }

def ofSnapshot (snapshot : SessionSnapshot) (options : Options) : Attempt GridError Session :=
  (create options).load snapshot

def revert (s : Session) (step : Step) : Attempt GridError (Session × Step) := do
  let sheet ← .ofExcept (s.sheet step.matrix)
  let restored ← .ofExcept (sheet.restore step)
  let (sheet', _) ← .ofOption (restored.recalcAll false)
  return (s.replace step.matrix sheet', sheet.inverseOf step)

/-- Takes back the latest edit, if there is one. A step that cannot be restored is lost. -/
def undo (s : Session) : Option (Session × Bool) :=
  match s.history.popUndo with
  | (none, _) => some (s, false)
  | (some step, history) =>
    match { s with history }.revert step with
    | .ok (s, inverse) => some ({ s with history := s.history.pushRedo inverse }, true)
    | .error (.fault _) => some ({ s with history }, false)
    | .error .crash => none

def redo (s : Session) : Option (Session × Bool) :=
  match s.history.popRedo with
  | (none, _) => some (s, false)
  | (some step, history) =>
    match { s with history }.revert step with
    | .ok (s, inverse) => some ({ s with history := s.history.pushUndo inverse }, true)
    | .error (.fault _) => some ({ s with history }, false)
    | .error .crash => none

end Session

end Spreadsheet
