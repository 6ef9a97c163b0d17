import Spreadsheet.Proofs.Session.Restorable
import Spreadsheet.Proofs.Sheet.InPlace
import Spreadsheet.Session.InPlace

/-!
# Refused operations leave no trace

An operation that is carried out in place comes to the same as the one that computes a new session. No
fault comes up behind a change: an edit checks all it needs to beforehand, and what a reachable session
has in its history can be restored.
-/

namespace Spreadsheet.Session
open Execution

section
variable {s s' : Session} {name : String} {α : Type}

theorem replace_same (nodup : s.names.Nodup) {sheet : Sheet} (found : s.sheet name = .ok sheet) :
    s.replace name sheet = s := by
  obtain ⟨stored, named⟩ := sheet_ok found
  have each : ∀ old ∈ s.sheets, (if old.name == name then sheet else old) = old := by
    intro old mem
    split
    · rename_i same
      exact List.inj_on_of_nodup_map nodup stored mem (named.trans (eq_of_beq same).symm)
    · rfl
  unfold replace
  rw [List.map_congr_left each, List.map_id']

theorem on_onSheet (nodup : s.names.Nodup) {work : Execution Sheet α}
    {y : Sheet → Attempt GridError (Sheet × α)} (h : ∀ sheet, work.on sheet = allOrNothing sheet (y sheet)) :
    (onSheet name work).on s = allOrNothing s (.ofExcept (s.sheet name) >>= fun sheet =>
      (y sheet).map fun r => (s.replace name r.1, r.2)) := by
  unfold onSheet
  rw [on_get_bind]
  apply demand_bind
  intro sheet found
  show (work.on sheet).map (fun r => (r.1, s.replace name r.2)) = _
  rw [h]
  cases y sheet with
  | error halt =>
      cases halt with
      | fault fault =>
          -- The sheet is put back in any case. Here it is the one that was found.
          show some (_, s.replace name sheet) = _
          rw [replace_same nodup (ofExcept_eq_ok.1 found)]
          rfl
      | crash => rfl
  | ok r => rfl

theorem on_recalc (recalc : Sheet → Option (Sheet × RecalcStats)) (sheet : Sheet) :
    (Sheet.recalcInPlace recalc).on sheet = allOrNothing sheet (.ofOption (recalc sheet)) := by
  unfold Sheet.recalcInPlace
  rw [on_get_bind, on_bind]
  cases recalc sheet <;> rfl

theorem on_edit (nodup : s.names.Nodup) (record : Sheet → Step) {work : InPlace Sheet α}
    {x : Sheet → Except GridError (Sheet × α)}
    (h : ∀ sheet, work.on sheet = InPlace.allOrNothing sheet (x sheet))
    (recalc : α → Sheet → Option (Sheet × RecalcStats)) :
    (do let (step, stats) ← onSheet name do
          let step := record (← get)
          let a ← .ofInPlace work
          let stats ← Sheet.recalcInPlace (recalc a)
          return (step, stats)
        modify fun s => { s with history := s.history.push step }
        return stats : Execution Session RecalcStats).on s =
      allOrNothing s (do
        let sheet ← .ofExcept (s.sheet name)
        let (edited, a) ← .ofExcept (x sheet)
        let (sheet', stats) ← .ofOption (recalc a edited)
        return ({ s.replace name sheet' with history := s.history.push (record sheet) }, stats)) := by
  have edited : ∀ sheet, (do
        let step := record (← get)
        let a ← .ofInPlace work
        let stats ← Sheet.recalcInPlace (recalc a)
        return (step, stats) : Execution Sheet (Step × RecalcStats)).on sheet =
      allOrNothing sheet (.ofExcept (x sheet) >>= fun r =>
        (Attempt.ofOption (recalc r.2 r.1)).map fun t => (t.1, record sheet, t.2)) := by
    intro sheet
    rw [on_get_bind, on_ofInPlace_bind, h]
    cases x sheet with
    | error fault => rfl
    | ok r =>
        show (Sheet.recalcInPlace (recalc r.2) >>= _).on r.1 = _
        rw [on_bind, on_recalc]
        show _ = allOrNothing sheet ((Attempt.ofOption (recalc r.2 r.1)).map _)
        cases recalc r.2 r.1 <;> rfl
  rw [on_bind, on_onSheet nodup edited]
  cases s.sheet name with
  | error fault => rfl
  | ok sheet =>
      rw [ofExcept_ok_bind, ofExcept_ok_bind]
      cases x sheet with
      | error fault => rfl
      | ok r =>
          rw [ofExcept_ok_bind, ofExcept_ok_bind]
          dsimp only
          cases recalc r.2 r.1 <;> rfl

theorem on_writeCells (nodup : s.names.Nodup) (description : String) (edits : List (Position × String))
    (cancelled : Bool) : (writeCellsInPlace name description edits cancelled).on s =
      allOrNothing s (s.writeCells name description edits cancelled) := by
  unfold writeCellsInPlace writeCells
  rw [on_edit nodup (·.recordCells description (edits.map (·.1))) (Sheet.on_write · edits)
    fun roots sheet => sheet.recalcFrom roots cancelled]

theorem on_lineEdit (nodup : s.names.Nodup) (edit : LineEdit) :
    (editLineInPlace name edit).on s = allOrNothing s (s.editLine name edit) := by
  unfold editLineInPlace editLine
  rw [on_edit nodup (·.recordMatrix edit.describe) (Sheet.on_editLine · edit)
    fun _ sheet => sheet.recalcAll false]
  refine congrArg _ (bind_congr fun sheet => ?_)
  cases sheet.editLine edit <;> rfl

theorem on_setCell (nodup : s.names.Nodup) (p : Position) (raw : String) (cancelled : Bool) :
    (setCellInPlace name p raw cancelled).on s = allOrNothing s (s.setCell name p raw cancelled) := by
  unfold setCellInPlace setCell
  rw [on_bind, on_writeCells nodup]
  cases wrote : s.writeCells name (describeEdit p raw) [(p, raw)] cancelled with
  | error halt => cases halt <;> rfl
  | ok result =>
      obtain ⟨s', stats⟩ := result
      -- The sheet is looked up once more when the cell is written, too late for a refusal.
      obtain ⟨sheet, found⟩ := found_writeCells wrote
      show (demand (.ofExcept (s'.sheet name)) >>= fun sheet =>
        demand (.ofOption (sheet.view p)) >>= fun view => pure (view, stats)).on s' =
        allOrNothing s (.ofExcept (s'.sheet name) >>= fun sheet =>
          .ofOption (sheet.view p) >>= fun view => pure (s', view, stats))
      rw [found]
      show (demand (.ofOption (sheet.view p)) >>= fun view => pure (view, stats)).on s' = _
      rw [on_bind, ofExcept_ok_bind]
      cases sheet.view p <;> rfl

/-! ## Other operations -/

theorem on_addMatrix (s : Session) (name : String) :
    (addMatrixInPlace name).on s =
      allOrNothing s ((Attempt.ofExcept (s.addMatrix name)).map fun s => (s, ())) := by
  unfold addMatrixInPlace addMatrix
  cases checkMatrixName name with
  | error fault => rfl
  | ok u =>
      rw [on_demand_ok_bind, on_get_bind]
      split
      · rfl
      · rw [on_get_bind]
        cases Sheet.create name s.options.limits <;> rfl

theorem on_removeMatrix (s : Session) (name : String) :
    (removeMatrixInPlace name).on s =
      allOrNothing s ((Attempt.ofExcept (s.removeMatrix name)).map fun s => (s, ())) := by
  unfold removeMatrixInPlace removeMatrix
  rw [on_get_bind, on_bind]
  cases s.sheet name <;> rfl

theorem on_recalculate (nodup : s.names.Nodup) (cancelled : Bool) :
    (onSheet name (Sheet.recalcInPlace (·.recalcAll cancelled))).on s =
      allOrNothing s (s.recalculate name cancelled) := by
  rw [on_onSheet nodup (on_recalc _)]
  unfold recalculate
  cases s.sheet name with
  | error fault => rfl
  | ok sheet =>
      rw [ofExcept_ok_bind, ofExcept_ok_bind]
      cases sheet.recalcAll cancelled <;> rfl

theorem on_load (s : Session) (snapshot : SessionSnapshot) :
    (loadInPlace snapshot).on s = allOrNothing s ((s.load snapshot).map fun s => (s, ())) := by
  unfold loadInPlace load
  rw [on_get_bind, on_bind]
  cases loadSheets s.options.limits [] snapshot.matrices with
  | error halt => cases halt <;> rfl
  | ok sheets => rfl

/-! ## History -/

theorem on_revert {step : Step} {sheet restored : Sheet} (found : s.sheet step.matrix = .ok sheet)
    (ok : sheet.restore step = .ok restored) :
    (revertInPlace step).on s = (restored.recalcAll false).map fun (r : Sheet × RecalcStats) =>
      (.ok (sheet.inverseOf step), s.replace step.matrix r.1) := by
  have work : (do
        let inverse := (← get).inverseOf step
        Execution.ofInPlace (Sheet.restoreInPlace step)
        let _ ← Sheet.recalcInPlace (·.recalcAll false)
        return inverse : Execution Sheet Step).on sheet =
      (restored.recalcAll false).map fun (r : Sheet × RecalcStats) =>
        (.ok (sheet.inverseOf step), r.1) := by
    rw [on_get_bind, on_ofInPlace_bind, Sheet.on_restore ok]
    dsimp only
    rw [on_bind, on_recalc]
    cases restored.recalcAll false <;> rfl
  unfold revertInPlace onSheet
  rw [on_get_bind, on_bind, found]
  show (Option.map _ (Execution.on _ sheet)) = _
  rw [work]
  cases restored.recalcAll false <;> rfl

/-- Reverting in place agrees with reverting as long as the step can be restored. One that cannot might
be restored in part. -/
theorem on_revertPopped {step : Step} (push : History → Step → History) {sheet restored : Sheet}
    (found : s.sheet step.matrix = .ok sheet) (ok : sheet.restore step = .ok restored) :
    (revertPopped step push).on s = (match s.revert step with
      | .ok (s, inverse) => some ({ s with history := push s.history inverse }, true)
      | .error (.fault _) => some (s, false)
      | .error .crash => none).map fun (r : Session × Bool) => (.ok r.2, r.1) := by
  unfold revertPopped
  rw [on_tryCatch, on_bind, on_revert found ok, revert_of_restored found ok]
  cases restored.recalcAll false <;> rfl

section
variable {options : Options}

theorem Restorable.undo_restored (h : s.Restorable options) {step : Step} {rest : List Step}
    (top : s.history.undos = step :: rest) :
    ∃ sheet restored, s.sheet step.matrix = .ok sheet ∧ sheet.restore step = .ok restored := by
  have undos := h.undos
  rw [top] at undos
  obtain ⟨x, y, before, bridge, _⟩ := undos.pop h.regular.names_snapshot
  obtain ⟨sheet, restored, found, ok, _⟩ := bridge.restored h.regular
  exact ⟨sheet, restored, found, ok⟩

theorem on_undo (h : s.Restorable options) :
    undoInPlace.on s = s.undo.map fun (r : Session × Bool) => (.ok r.2, r.1) := by
  unfold undoInPlace Session.undo History.popUndo
  rw [on_get_bind]
  cases top : s.history.undos with
  | nil => rfl
  | cons step rest =>
      obtain ⟨sheet, restored, found, ok⟩ := h.undo_restored top
      exact on_revertPopped (s := { s with history := { s.history with undos := rest } })
        History.pushRedo found ok

theorem on_redo (h : s.Restorable options) :
    redoInPlace.on s = s.redo.map fun (r : Session × Bool) => (.ok r.2, r.1) := by
  unfold redoInPlace Session.redo History.popRedo
  rw [on_get_bind]
  cases top : s.history.redos with
  | nil => rfl
  | cons step rest =>
      obtain ⟨sheet, restored, found, ok⟩ := h.turned.undo_restored top
      exact on_revertPopped (s := { s with history := { s.history with redos := rest } })
        History.pushUndo found ok

/-! ## Operations in place -/

theorem Restorable.on_execute (h : s.Restorable options) (op : Operation) :
    (execute op).on s = allOrNothing s (s.perform op) := by
  have nodup := h.regular.names
  cases op with
  | addMatrix name => exact unit_bind_return (on_addMatrix s name) Reply.done
  | removeMatrix name => exact unit_bind_return (on_removeMatrix s name) Reply.done
  | setCell name p raw cancelled =>
      exact bind_return (on_setCell nodup p raw cancelled) fun r => Reply.cell r.1 r.2
  | setCells name edits => exact bind_return (on_writeCells nodup _ edits false) Reply.stats
  | editLine name edit => exact bind_return (on_lineEdit nodup edit) Reply.stats
  | recalculate name cancelled => exact bind_return (on_recalculate nodup cancelled) Reply.stats
  | load snapshot => exact unit_bind_return (on_load s snapshot) Reply.done
  | undo =>
      show (undoInPlace >>= _).on s = allOrNothing s ((Attempt.ofOption s.undo).map _)
      rw [on_bind, on_undo h]
      cases s.undo <;> rfl
  | redo =>
      show (redoInPlace >>= _).on s = allOrNothing s ((Attempt.ofOption s.redo).map _)
      rw [on_bind, on_redo h]
      cases s.redo <;> rfl

theorem Restorable.executed (h : s.Restorable options) (op : Operation) :
    ((execute op).on s).map Prod.snd = s.after op := by
  rw [h.on_execute op]
  unfold Session.after
  cases s.perform op with
  | error halt => cases halt <;> rfl
  | ok result => rfl

end

end

theorem executeAll_eq {options : Options} {s : Session} (h : Reachable options s) (ops : List Operation) :
    executeAll s ops = s.run ops := by
  induction ops generalizing s with
  | nil => rfl
  | cons op ops ih =>
      show (((execute op).on s).map Prod.snd).bind (executeAll · ops) = (s.after op).bind (·.run ops)
      rw [h.restorable.executed op]
      exact Option.bind_congr fun t done => ih (h.after op done)

theorem reachable_executeAll {options : Options} {ops : List Operation} {s : Session}
    (ran : executeAll (create options) ops = some s) : Reachable options s := by
  rw [executeAll_eq .create] at ran
  exact Reachable.create.run ran

/-! ## The property -/

def rim : Session := ((create { limits := { rows := 2 } }).executeAll
  [.addMatrix "S", .setCell "S" ⟨0, 0⟩ "=A1" false, .setCell "S" ⟨1, 0⟩ "old" false,
    .setCell "S" ⟨1, 0⟩ "new" false, .undo]).getD (create {})

end Spreadsheet.Session
