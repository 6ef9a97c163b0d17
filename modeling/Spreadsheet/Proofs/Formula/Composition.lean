import Spreadsheet.Proofs.Formula.InWords
import Spreadsheet.Proofs.Formula.Shifting
import Spreadsheet.Proofs.Grid.Composition

namespace Spreadsheet.Expr

def afterInWords (edit : LineEdit) (e : Expr) : Option Expr :=
  (e.moved?InWords edit).map fun moved => moved.getD e

variable {edit edit' : LineEdit} {e : Expr}

theorem afterInWords_eq (edit : LineEdit) (named : ∀ r ∈ e.references, r.InBounds) :
    e.afterInWords edit = some (e.move edit) := by
  rw [afterInWords, moved?InWords_eq named, Option.map_some, moved?_getD]

theorem references_move_inBounds (edit : LineEdit) (named : ∀ r ∈ e.references, r.InBounds) :
    ∀ r ∈ (e.move edit).references, r.InBounds := by
  rw [references_move]
  intro r' refers
  obtain ⟨r, refers, moved⟩ := List.mem_filterMap.1 refers
  exact LineEdit.moveRange_inBounds (named r refers) moved

theorem afterInWords_bind (edit edit' : LineEdit) (named : ∀ r ∈ e.references, r.InBounds) :
    (e.afterInWords edit).bind (afterInWords edit') = some ((e.move edit).move edit') := by
  rw [afterInWords_eq edit named]
  exact afterInWords_eq edit' (references_move_inBounds edit named)

theorem move_move_cell (edit edit' : LineEdit) (ref : CellRef) :
    ((cell ref).move edit).move edit' =
      (((edit.moveRef ref).bind edit'.moveRef).map cell).getD (error .brokenReference) := by
  rw [move]
  cases edit.moveRef ref with
  | none =>
      show (error .brokenReference).move edit' = error .brokenReference
      simp only [move]
  | some ref' =>
      show (cell ref').move edit' = _
      rw [move]
      rfl

theorem move_move_range (edit edit' : LineEdit) (r : CellRange) :
    ((range r).move edit).move edit' =
      (((edit.moveRange r).bind edit'.moveRange).map range).getD (error .brokenReference) := by
  rw [move]
  cases edit.moveRange r with
  | none =>
      show (error .brokenReference).move edit' = error .brokenReference
      simp only [move]
  | some r' =>
      show (range r').move edit' = _
      rw [move]
      rfl

mutual

theorem move_insert_delete {axis : Axis} {k : Nat} :
    (e : Expr) → (∀ r ∈ e.references, r.last.along axis + 1 < axis.bound) →
      (e.move (.insert axis k)).move (.delete axis k) = e
  | .number _, _ => by simp only [move]
  | .text _, _ => by simp only [move]
  | .boolean _, _ => by simp only [move]
  | .error _, _ => by simp only [move]
  | .cell ref, room => by
      have room : ref.along axis + 1 < axis.bound :=
        room (.single ref) (by simp only [references, List.mem_singleton])
      rw [move_move_cell, LineEdit.moveRef_insert_delete room]
      rfl
  | .range r, room => by
      have room : r.last.along axis + 1 < axis.bound :=
        room r (by simp only [references, List.mem_singleton])
      rw [move_move_range, LineEdit.moveRange_insert_delete room]
      rfl
  | .binary _ left right, room => by
      rw [references, List.forall_mem_append] at room
      rw [move, move, move_insert_delete left room.1, move_insert_delete right room.2]
  | .negate e, room => by
      rw [references] at room
      rw [move, move, move_insert_delete e room]
  | .call _ args, room => by
      rw [references] at room
      rw [move, move, moveArgs_insert_delete args room]

theorem moveArgs_insert_delete {axis : Axis} {k : Nat} :
    (args : List Expr) → (∀ r ∈ argReferences args, r.last.along axis + 1 < axis.bound) →
      moveArgs (.delete axis k) (moveArgs (.insert axis k) args) = args
  | [], _ => by rw [moveArgs, moveArgs]
  | e :: rest, room => by
      rw [argReferences, List.forall_mem_append] at room
      rw [moveArgs, moveArgs, move_insert_delete e room.1, moveArgs_insert_delete rest room.2]

end

mutual

theorem move_comm (across : edit'.axis = edit.axis.other) :
    (e : Expr) → (e.move edit).move edit' = (e.move edit').move edit
  | .number _ => by simp only [move]
  | .text _ => by simp only [move]
  | .boolean _ => by simp only [move]
  | .error _ => by simp only [move]
  | .cell ref => by rw [move_move_cell, move_move_cell, LineEdit.moveRef_comm across]
  | .range r => by rw [move_move_range, move_move_range, LineEdit.moveRange_comm across]
  | .binary _ left right => by
      rw [move, move, move, move, move_comm across left, move_comm across right]
  | .negate e => by rw [move, move, move, move, move_comm across e]
  | .call _ args => by rw [move, move, move, move, moveArgs_comm across args]

theorem moveArgs_comm (across : edit'.axis = edit.axis.other) :
    (args : List Expr) → moveArgs edit' (moveArgs edit args) = moveArgs edit (moveArgs edit' args)
  | [] => by rw [moveArgs, moveArgs, moveArgs]
  | e :: rest => by
      rw [moveArgs, moveArgs, moveArgs, moveArgs, move_comm across e, moveArgs_comm across rest]

end

end Spreadsheet.Expr
