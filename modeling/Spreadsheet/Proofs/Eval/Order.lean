import Mathlib.Data.String.Basic
import Spreadsheet.Proofs.Number.Order

namespace Spreadsheet.CellValue

abbrev SortKey := ℕ ×ₗ Binary64.OrderKey ×ₗ String ×ₗ ℕ

def sortKey : CellValue → SortKey
  | empty => toLex (0, toLex (Binary64.orderKey 0, toLex ("", 0)))
  | number x => toLex (0, toLex (Binary64.orderKey x, toLex ("", 0)))
  | text s => toLex (1, toLex (Binary64.orderKey 0, toLex (Text.lower s, 0)))
  | boolean b => toLex (2, toLex (Binary64.orderKey 0, toLex ("", b.toNat)))
  | error _ => toLex (3, toLex (Binary64.orderKey 0, toLex ("", 0)))

def isNaN : CellValue → Bool
  | number x => x.isNaN
  | _ => false

theorem compare_toLex {α β : Type} [Ord α] [Ord β] (a a' : α) (b b' : β) :
    Ord.compare (toLex (a, b)) (toLex (a', b')) = (Ord.compare a a').then (Ord.compare b b') := by
  rw [Prod.Lex.compare_def]
  rfl

theorem compare_eq_sortKey {c d : CellValue} (hc : c.isNaN = false) (hd : d.isNaN = false)
    (blanks : c = empty ↔ d = empty) : c.compare d = Ord.compare c.sortKey d.sortKey := by
  rcases c with _ | x | s | b | _ <;> rcases d with _ | y | t | b' | _ <;>
    simp only [sortKey, compare_toLex, Std.compare_self, Ordering.then_eq, Ordering.eq_then]
  case number.number => exact compareNumbers_eq_orderKey hc hd
  case text.text => exact (LinearOrder.compare_eq_compareOfLessAndEq _ _).symm
  -- Different ranks decide by themselves.
  all_goals first | rfl | cases blanks.1 rfl | cases blanks.2 rfl

end Spreadsheet.CellValue
