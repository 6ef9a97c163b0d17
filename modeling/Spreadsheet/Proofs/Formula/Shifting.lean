import Spreadsheet.Formula.Move
import Spreadsheet.Proofs.Grid.Shifting

namespace Spreadsheet.Expr

mutual

theorem move_of_unmoved {edit : LineEdit} :
    (e : Expr) → movedBy edit e = false → move edit e = e
  | .number _, _ => by simp only [move]
  | .text _, _ => by simp only [move]
  | .boolean _, _ => by simp only [move]
  | .error _, _ => by simp only [move]
  | .cell ref, still => by
      rw [movedBy, bne_eq_false_iff_eq] at still
      rw [move, still]
      rfl
  | .range r, still => by
      rw [movedBy, bne_eq_false_iff_eq] at still
      rw [move, still]
      rfl
  | .binary op left right, still => by
      rw [movedBy, Bool.or_eq_false_iff] at still
      rw [move, move_of_unmoved left still.1, move_of_unmoved right still.2]
  | .negate e, still => by
      rw [movedBy] at still
      rw [move, move_of_unmoved e still]
  | .call function args, still => by
      rw [movedBy] at still
      rw [move, moveArgs_of_unmoved args still]

theorem moveArgs_of_unmoved {edit : LineEdit} :
    (args : List Expr) → anyMovedBy edit args = false → moveArgs edit args = args
  | [], _ => by rw [moveArgs]
  | e :: rest, still => by
      rw [anyMovedBy, Bool.or_eq_false_iff] at still
      rw [moveArgs, move_of_unmoved e still.1, moveArgs_of_unmoved rest still.2]

end

theorem moved?_getD (edit : LineEdit) (e : Expr) : (e.moved? edit).getD e = e.move edit := by
  unfold moved?
  cases moves : movedBy edit e with
  | true => rfl
  | false => exact (move_of_unmoved e moves).symm

mutual

theorem references_move (edit : LineEdit) :
    (e : Expr) → (e.move edit).references = e.references.filterMap edit.moveRange
  | .number _ => by simp only [move, references, List.filterMap_nil]
  | .text _ => by simp only [move, references, List.filterMap_nil]
  | .boolean _ => by simp only [move, references, List.filterMap_nil]
  | .error _ => by simp only [move, references, List.filterMap_nil]
  | .cell ref => by
      simp only [move, references, List.filterMap_cons, List.filterMap_nil, LineEdit.moveRange_single]
      cases edit.moveRef ref with
      | none => rfl
      | some ref' => rfl
  | .range r => by
      simp only [move, references, List.filterMap_cons, List.filterMap_nil]
      cases edit.moveRange r with
      | none => rfl
      | some r' => rfl
  | .binary op left right => by
      rw [move, references, references, references_move edit left, references_move edit right,
        List.filterMap_append]
  | .negate e => by rw [move, references, references, references_move edit e]
  | .call function args => by rw [move, references, references, argReferences_move edit args]

theorem argReferences_move (edit : LineEdit) :
    (args : List Expr) →
      argReferences (moveArgs edit args) = (argReferences args).filterMap edit.moveRange
  | [] => by simp only [moveArgs, argReferences, List.filterMap_nil]
  | e :: rest => by
      rw [moveArgs, argReferences, argReferences, references_move edit e, argReferences_move edit rest,
        List.filterMap_append]

end

end Spreadsheet.Expr
