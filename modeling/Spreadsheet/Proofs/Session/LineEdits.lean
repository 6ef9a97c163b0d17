import Spreadsheet.Proofs.Session.Regularity
import Spreadsheet.Proofs.Sheet.Shifting

namespace Spreadsheet

theorem Limits.along_le_bound {limits : Limits} (rows : limits.rows ≤ maxRows)
    (columns : limits.columns ≤ maxColumns) (axis : Axis) : limits.along axis ≤ axis.bound := by
  cases axis with
  | row => exact rows
  | column => exact columns

theorem Sheet.Sound.circular_recalcAll {s s' : Sheet} (h : s.Sound) {stats : RecalcStats}
    (ran : s.recalcAll false = some (s', stats)) (p : Position) : s'.isCircular p = s.isCircular p := by
  obtain ⟨val, values⟩ := h.exists_values
  rw [recalcAll_eq h values ran]
  rfl

namespace Session

end Session

end Spreadsheet
