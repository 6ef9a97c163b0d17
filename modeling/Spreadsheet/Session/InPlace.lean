import Spreadsheet.Session.Operation
import Spreadsheet.Sheet.InPlace

/-!
# Operations carried out in place

`Session.execute` carries an operation out on the one session there is, in the order in which checks
and changes are made. Sheets are edited where they are, so a refusal in the middle of an edit would
leave it half made. A crash leaves no session.
-/

namespace Spreadsheet.Session

def onSheet {α : Type} (name : String) (work : Execution Sheet α) : Execution Session α := do
  let sheet ← .demand (.ofExcept ((← get).sheet name))
  work.onPart (fun _ => sheet) fun s sheet => s.replace name sheet

def addMatrixInPlace (name : String) : Execution Session Unit := do
  .demand (.ofExcept (checkMatrixName name))
  if (← get).names.contains name then throw (.duplicateMatrix name)
  let sheet ← .demand (.ofExcept (Sheet.create name (← get).options.limits))
  modify fun s => { s with sheets := s.sheets ++ [sheet] }

def removeMatrixInPlace (name : String) : Execution Session Unit := do
  let _ ← .demand (.ofExcept ((← get).sheet name))
  modify fun s => { s with sheets := s.sheets.filter fun sheet => sheet.name != name }
  modify fun s => { s with history := s.history.forget name }

def writeCellsInPlace (name description : String) (edits : List (Position × String))
    (cancelled : Bool) : Execution Session RecalcStats := do
  let (step, stats) ← onSheet name do
    let step := (← get).recordCells description (edits.map (·.1))
    let roots ← .ofInPlace (Sheet.writeInPlace edits)
    let stats ← Sheet.recalcInPlace (·.recalcFrom roots cancelled)
    return (step, stats)
  modify fun s => { s with history := s.history.push step }
  return stats

def setCellInPlace (name : String) (p : Position) (raw : String) (cancelled : Bool) :
    Execution Session (CellView × RecalcStats) := do
  let stats ← writeCellsInPlace name (describeEdit p raw) [(p, raw)] cancelled
  let sheet ← .demand (.ofExcept ((← get).sheet name))
  let view ← .demand (.ofOption (sheet.view p))
  return (view, stats)

def editLineInPlace (name : String) (edit : LineEdit) : Execution Session RecalcStats := do
  let (step, stats) ← onSheet name do
    let step := (← get).recordMatrix edit.describe
    .ofInPlace (Sheet.editLineInPlace edit)
    let stats ← Sheet.recalcInPlace (·.recalcAll false)
    return (step, stats)
  modify fun s => { s with history := s.history.push step }
  return stats

/-- The sheets of the snapshot are all read before one of them replaces any. -/
def loadInPlace (snapshot : SessionSnapshot) : Execution Session Unit := do
  let sheets ← .demand (loadSheets (← get).options.limits [] snapshot.matrices)
  modify fun s => { s with sheets }
  modify fun s => { s with history := s.history.clear }

def revertInPlace (step : Step) : Execution Session Step :=
  onSheet step.matrix do
    let inverse := (← get).inverseOf step
    .ofInPlace (Sheet.restoreInPlace step)
    let _ ← Sheet.recalcInPlace (·.recalcAll false)
    return inverse

def revertPopped (step : Step) (push : History → Step → History) : Execution Session Bool := do
  try
    let inverse ← revertInPlace step
    modify fun s => { s with history := push s.history inverse }
    pure true
  catch _ => pure false

def undoInPlace : Execution Session Bool := do
  match (← get).history.popUndo with
  | (none, _) => return false
  | (some step, history) =>
    modify fun s => { s with history }
    revertPopped step History.pushRedo

def redoInPlace : Execution Session Bool := do
  match (← get).history.popRedo with
  | (none, _) => return false
  | (some step, history) =>
    modify fun s => { s with history }
    revertPopped step History.pushUndo

def execute : Operation → Execution Session Reply
  | .addMatrix name => do
    addMatrixInPlace name
    return .done
  | .removeMatrix name => do
    removeMatrixInPlace name
    return .done
  | .setCell name p raw cancelled => do
    let (view, stats) ← setCellInPlace name p raw cancelled
    return .cell view stats
  | .setCells name edits =>
    return .stats (← writeCellsInPlace name ("edit " ++ toString edits.length ++ " cells") edits false)
  | .editLine name edit => return .stats (← editLineInPlace name edit)
  | .recalculate name cancelled =>
    return .stats (← onSheet name (Sheet.recalcInPlace (·.recalcAll cancelled)))
  | .load snapshot => do
    loadInPlace snapshot
    return .done
  | .undo => return .applied (← undoInPlace)
  | .redo => return .applied (← redoInPlace)

def executeAll (s : Session) (ops : List Operation) : Option Session :=
  ops.foldlM (fun s op => ((execute op).on s).map Prod.snd) s

end Spreadsheet.Session
