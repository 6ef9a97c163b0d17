import Spreadsheet.Grid.InWords
import Spreadsheet.Proofs.Grid.Bounds

namespace Spreadsheet

theorem wordSum_of_lt {bound a b : Nat} (room : a + b < bound) : wordSum bound a b = some (a + b) :=
  if_pos room

theorem wordSum_of_le {bound a b : Nat} (full : bound ≤ a + b) : wordSum bound a b = none :=
  if_neg (Nat.not_lt.2 full)

theorem wordSum_eq_some {bound a b n : Nat} : wordSum bound a b = some n ↔ a + b < bound ∧ n = a + b := by
  unfold wordSum
  split
  · rw [Option.some.injEq]
    omega
  · simp only [reduceCtorEq, false_iff]
    omega

theorem wordDifference_of_le {a b : Nat} (le : b ≤ a) : wordDifference a b = some (a - b) := if_pos le

theorem Axis.wordBound_le (axis : Axis) : axis.wordBound ≤ rowWordBound := by
  cases axis <;> decide

theorem Axis.succ_lt_rowWordBound {axis : Axis} {i : Nat} (inside : i < axis.bound) :
    i + 1 < rowWordBound := by
  have room : axis.bound < rowWordBound := by
    cases axis <;> decide
  omega

namespace LineEdit

theorem describeInWords_of_lt {edit : LineEdit} (room : edit.index + 1 < rowWordBound) :
    edit.describeInWords = some edit.describe := by
  rw [describeInWords, wordSum_of_lt room]
  rfl

theorem describeInWords_of_le {edit : LineEdit} (full : rowWordBound ≤ edit.index + 1) :
    edit.describeInWords = none := by
  rw [describeInWords, wordSum_of_le full]
  rfl

theorem moveBackInWords_eq (axis : Axis) {i : Nat} {moves : Prop} [Decidable moves]
    (behind : moves → 1 ≤ i) :
    (if moves then (wordDifference i 1).map (landing axis) else some (some i)) =
      some (if moves then landing axis (i - 1) else some i) := by
  split
  · rename_i moves
    rw [wordDifference_of_le (behind moves)]
    rfl
  · rfl

theorem moveIndexInWords_eq (edit : LineEdit) {i : Nat} (room : i + 1 < rowWordBound) :
    edit.moveIndexInWords i = some (edit.moveIndex i) := by
  cases edit with
  | insert axis k =>
      rw [moveIndexInWords, moveIndex, wordSum_of_lt room]
      split <;> rfl
  | delete axis k =>
      rw [moveIndexInWords, moveIndex, moveBackInWords_eq axis (by omega)]
      split <;> rfl

theorem movePositionInWords_eq (edit : LineEdit) {p : Position}
    (room : p.along edit.axis + 1 < rowWordBound) :
    edit.movePositionInWords p = some (edit.movePosition p) := by
  rw [movePositionInWords, moveIndexInWords_eq edit room]
  rfl

theorem moveRefInWords_eq (edit : LineEdit) {ref : CellRef} (bounds : ref.InBounds) :
    edit.moveRefInWords ref = some (edit.moveRef ref) := by
  have room := Axis.succ_lt_rowWordBound (Position.inBounds_iff_along.1 bounds edit.axis)
  rw [moveRefInWords, movePositionInWords_eq edit room]
  rfl

theorem bothInWords_some (first last : Option Nat) :
    bothInWords (some first) (some last) =
      some (first.bind fun a => last.map fun b => (a, b)) := by
  cases first <;> rfl

theorem moveSpanInWords_eq (edit : LineEdit) {first last : Nat} (le : first ≤ last)
    (room : last + 1 < rowWordBound) :
    edit.moveSpanInWords first last = some (edit.moveSpan first last) := by
  cases edit with
  | insert axis k =>
      unfold moveSpanInWords moveSpan
      rw [moveIndexInWords_eq _ room, moveIndexInWords_eq _ (Nat.lt_of_le_of_lt (Nat.succ_le_succ le) room),
        bothInWords_some]
  | delete axis k =>
      unfold moveSpanInWords moveSpan
      dsimp only
      split
      · rfl
      · -- The last line only lies at the very start when it is the only one.
        rw [moveBackInWords_eq axis (by omega), moveBackInWords_eq axis (by omega), bothInWords_some]

theorem moveRangeInWords_eq (edit : LineEdit) {r : CellRange} (bounds : r.InBounds) :
    edit.moveRangeInWords r = some (edit.moveRange r) := by
  have le : r.first.along edit.axis ≤ r.last.along edit.axis := by
    cases edit.axis with
    | row => exact r.row_le
    | column => exact r.column_le
  have room := Axis.succ_lt_rowWordBound (Position.inBounds_iff_along.1 bounds.2 edit.axis)
  rw [moveRangeInWords, moveSpanInWords_eq edit le room]
  rfl

end LineEdit

namespace CellRange

theorem clampedInWords_eq (r : CellRange) (limits : Limits) :
    r.clampedInWords limits = some (r.clamped limits) := by
  unfold clampedInWords
  split
  · rename_i inside
    rw [wordDifference_of_le (by omega), wordDifference_of_le (by omega)]
    rfl
  · rename_i outside
    rw [clamped, dif_neg outside]

theorem rowCountInWords_eq {r : CellRange} (bounds : r.InBounds) :
    r.rowCountInWords = some r.rowCount := by
  have last := bounds.2.1
  have room : maxRows < rowWordBound := by decide
  rw [rowCountInWords, wordDifference_of_le r.row_le]
  exact wordSum_of_lt (by omega)

theorem columnCountInWords_eq {r : CellRange} (bounds : r.InBounds) :
    r.columnCountInWords = some r.columnCount := by
  have last := bounds.2.2
  have room : maxColumns < columnWordBound := by decide
  rw [columnCountInWords, wordDifference_of_le r.column_le]
  exact wordSum_of_lt (by omega)

theorem cellCountInWords_eq {r : CellRange} (bounds : r.InBounds) :
    r.cellCountInWords = some r.cellCount := by
  rw [cellCountInWords, rowCountInWords_eq bounds, columnCountInWords_eq bounds]
  rfl

end CellRange

end Spreadsheet
