import Spreadsheet.Formula.InWords
import Spreadsheet.Proofs.Data.Outcome
import Spreadsheet.Proofs.Formula.WellFormed
import Spreadsheet.Proofs.Grid.Expansion

namespace Spreadsheet.Expr
variable {e : Expr}

mutual

theorem moveInWords_eq {edit : LineEdit} :
    (e : Expr) → (∀ r ∈ e.references, r.InBounds) → e.moveInWords edit = some (e.move edit)
  | .number _, _ => by simp only [moveInWords, Expr.move]
  | .text _, _ => by simp only [moveInWords, Expr.move]
  | .boolean _, _ => by simp only [moveInWords, Expr.move]
  | .error _, _ => by simp only [moveInWords, Expr.move]
  | .cell ref, named => by
      have bounds : ref.InBounds := (named (.single ref) (by simp only [references, List.mem_singleton])).1
      rw [moveInWords, Expr.move, LineEdit.moveRefInWords_eq edit bounds]
      rfl
  | .range r, named => by
      have bounds : r.InBounds := named r (by simp only [references, List.mem_singleton])
      rw [moveInWords, Expr.move, LineEdit.moveRangeInWords_eq edit bounds]
      rfl
  | .binary _ left right, named => by
      rw [references, List.forall_mem_append] at named
      rw [moveInWords, Expr.move, moveInWords_eq left named.1, moveInWords_eq right named.2]
      rfl
  | .negate e, named => by
      rw [references] at named
      rw [moveInWords, Expr.move, moveInWords_eq e named]
      rfl
  | .call _ args, named => by
      rw [references] at named
      rw [moveInWords, Expr.move, moveArgsInWords_eq args named]
      rfl

theorem moveArgsInWords_eq {edit : LineEdit} :
    (args : List Expr) → (∀ r ∈ argReferences args, r.InBounds) →
      moveArgsInWords edit args = some (moveArgs edit args)
  | [], _ => by rw [moveArgsInWords, moveArgs]
  | e :: rest, named => by
      rw [argReferences, List.forall_mem_append] at named
      rw [moveArgsInWords, moveArgs, moveInWords_eq e named.1, moveArgsInWords_eq rest named.2]
      rfl

end

theorem moved?InWords_eq {edit : LineEdit} (named : ∀ r ∈ e.references, r.InBounds) :
    e.moved?InWords edit = some (e.moved? edit) := by
  rw [moved?InWords, moveInWords_eq e named]
  rfl

theorem WellFormed.moved?InWords_eq (h : e.WellFormed) (edit : LineEdit) :
    e.moved?InWords edit = some (e.moved? edit) :=
  Expr.moved?InWords_eq fun _ refers => h.references_inBounds refers

theorem WellFormed.precedentsInWords_eq (h : e.WellFormed) (limits : Limits) :
    e.precedentsInWords limits = some (e.precedents limits) := by
  unfold precedentsInWords precedents
  rw [mapM_of_some (g := fun r => (r.clamped limits).elim [] CellRange.positions)]
  · rfl
  · intro r refers
    rw [CellRange.clampedInWords_eq]
    cases cut : r.clamped limits with
    | none => rfl
    | some r' => exact CellRange.positionsInWords_eq (r.clamped_inBounds (h.references_inBounds refers) cut)

theorem WellFormed.countInWords_eq (h : e.WellFormed) (limits : Limits) :
    e.countInWords limits = some () := by
  refine forM_of_some fun r refers => ?_
  rw [CellRange.clampedInWords_eq]
  cases cut : r.clamped limits with
  | none => rfl
  | some r' =>
      have bounds := r.clamped_inBounds (h.references_inBounds refers) cut
      show (r'.rowCountInWords.bind fun _ => r'.columnCountInWords.bind fun _ => some ()) = some ()
      rw [CellRange.rowCountInWords_eq bounds, CellRange.columnCountInWords_eq bounds]
      rfl

end Spreadsheet.Expr
