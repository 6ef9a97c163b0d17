import Mathlib.Data.Set.Basic
import Spreadsheet.Proofs.Grid.InWords
import Spreadsheet.Proofs.Grid.Shifting

namespace Spreadsheet

def CellRange.cells (r : CellRange) : Set Position := {p | r.Contains p}

namespace LineEdit

def imageOf (edit : LineEdit) (cells : Set Position) : Set Position :=
  {q | ∃ p ∈ cells, edit.movePosition p = some q}

def Opens : LineEdit → (first last j : Nat) → Prop
  | insert _ k, first, last, j => (first < k ∧ k ≤ last) ∧ j = k
  | delete .., _, _, _ => False

def openedIn (edit : LineEdit) (r : CellRange) : Set Position :=
  {q | edit.Opens (r.first.along edit.axis) (r.last.along edit.axis) (q.along edit.axis) ∧
    r.first.along edit.axis.other ≤ q.along edit.axis.other ∧
      q.along edit.axis.other ≤ r.last.along edit.axis.other}

def Loses : LineEdit → CellRange → Prop
  | insert axis k, r => k ≤ r.last.along axis ∧ axis.bound ≤ r.last.along axis + 1
  | delete axis k, r => ∀ p ∈ r.cells, (delete axis k).movePosition p = none

section
variable {edit : LineEdit} {axis : Axis} {first last a b i j k : Nat}

theorem mem_moveSpan (le : first ≤ last) (span : edit.moveSpan first last = some (a, b)) :
    (a ≤ j ∧ j ≤ b) ↔
      (∃ i, (first ≤ i ∧ i ≤ last) ∧ edit.moveIndex i = some j) ∨ edit.Opens first last j := by
  cases edit with
  | insert axis k =>
      rw [moveSpan_insert_iff le] at span
      simp only [moveIndex_insert_iff, Opens]
      constructor
      · intro inside
        by_cases new : (first < k ∧ k ≤ last) ∧ j = k
        · exact .inr new
        · -- An old line comes from itself or from the one in front.
          refine .inl ⟨if j < k then j else j - 1, ?_⟩
          split <;> omega
      · rintro (⟨i, within, goes⟩ | new) <;> omega
  | delete axis k =>
      rw [moveSpan_delete_iff le] at span
      simp only [moveIndex_delete_iff, Opens, or_false]
      constructor
      · intro inside
        refine ⟨if j < k then j else j + 1, ?_⟩
        split <;> omega
      · rintro ⟨i, within, goes⟩
        omega

theorem moveSpan_insert_eq_none (le : first ≤ last) :
    (insert axis k).moveSpan first last = none ↔ k ≤ last ∧ axis.bound ≤ last + 1 := by
  rw [Option.eq_none_iff_forall_ne_some]
  constructor
  · intro lost
    refine Classical.byContradiction fun room => ?_
    refine lost (if first < k then first else first + 1, if last < k then last else last + 1) ?_
    rw [moveSpan_insert_iff le]
    split <;> split <;> omega
  · rintro out ⟨a, b⟩ span
    rw [moveSpan_insert_iff le] at span
    omega

theorem moveSpan_delete_eq_none (le : first ≤ last) (inside : last < axis.bound) :
    (delete axis k).moveSpan first last = none ↔
      ∀ i, first ≤ i → i ≤ last → (delete axis k).moveIndex i = none := by
  have single : (delete axis k).moveSpan first last = none ↔ first = k ∧ last = k := by
    rw [Option.eq_none_iff_forall_ne_some]
    constructor
    · intro lost
      refine Classical.byContradiction fun more => ?_
      refine lost (if k < first then first - 1 else first, if k ≤ last then last - 1 else last) ?_
      rw [moveSpan_delete_iff le]
      split <;> split <;> omega
    · rintro on ⟨a, b⟩ span
      rw [moveSpan_delete_iff le] at span
      omega
  rw [single]
  constructor
  · rintro ⟨rfl, rfl⟩ i lower upper
    rw [moveIndex, if_pos (by omega)]
  · intro lost
    have deleted : ∀ i, first ≤ i → i ≤ last → i = k := by
      intro i lower upper
      refine Classical.byContradiction fun other => ?_
      have survives : (delete axis k).moveIndex i = some (if i < k then i else i - 1) := by
        rw [moveIndex_delete_iff]
        split <;> omega
      rw [lost i lower upper] at survives
      cases survives
    exact ⟨deleted first (Nat.le_refl _) le, deleted last le (Nat.le_refl _)⟩

end

variable {edit : LineEdit} {r r' : CellRange}

theorem cells_moveRange (moved : edit.moveRange r = some r') :
    r'.cells = edit.imageOf r.cells ∪ edit.openedIn r := by
  obtain ⟨span, ⟨first, last⟩, _⟩ := moveRange_iff.1 moved
  ext q
  rw [Set.mem_union]
  show r'.Contains q ↔ (∃ p, r.Contains p ∧ edit.movePosition p = some q) ∨ _ ∧ _
  rw [CellRange.contains_iff_along edit.axis, mem_moveSpan (r.along_le edit.axis) span, first, last,
    or_and_right]
  refine or_congr_left ?_
  constructor
  · rintro ⟨⟨i, within, goes⟩, across⟩
    refine ⟨q.withAlong edit.axis i, ?_, ?_⟩
    · rw [CellRange.contains_iff_along edit.axis, Position.withAlong_along, Position.withAlong_other]
      exact ⟨within, across⟩
    · rw [movePosition_iff, Position.withAlong_along, Position.withAlong_other]
      exact ⟨goes, rfl⟩
  · rintro ⟨p, contains, goes⟩
    obtain ⟨within, across⟩ := (CellRange.contains_iff_along edit.axis).1 contains
    obtain ⟨line, same⟩ := movePosition_iff.1 goes
    rw [same]
    exact ⟨⟨_, within, line⟩, across⟩

theorem moveRange_eq_none (bounds : r.InBounds) : edit.moveRange r = none ↔ edit.Loses r := by
  unfold moveRange
  rw [Option.map_eq_none_iff]
  cases edit with
  | insert axis k => exact moveSpan_insert_eq_none (r.along_le axis)
  | delete axis k =>
      show (delete axis k).moveSpan (r.first.along axis) (r.last.along axis) = none ↔ _
      rw [moveSpan_delete_eq_none (r.along_le axis) (Position.inBounds_iff_along.1 bounds.2 axis)]
      have lost : ∀ p, (delete axis k).movePosition p = none ↔
          (delete axis k).moveIndex (p.along axis) = none := fun p => Option.map_eq_none_iff
      constructor
      · intro lines p contains
        obtain ⟨⟨lower, upper⟩, _⟩ := (CellRange.contains_iff_along axis).1 contains
        exact (lost p).2 (lines _ lower upper)
      · intro cells i lower upper
        -- The cell of line `i` in the first row or column of the range.
        have gone := (lost (r.first.withAlong axis i)).1 (cells _ ?_)
        · rwa [Position.withAlong_along] at gone
        · show r.Contains _
          rw [CellRange.contains_iff_along axis, Position.withAlong_along, Position.withAlong_other]
          exact ⟨⟨lower, upper⟩, Nat.le_refl _, r.along_le axis.other⟩

/-- Ranges move with their cells. Within notation, moving a range and moving its cells has room in
machine words; the range is lost only where all of it is; and otherwise it stays within notation, keeps
the markers of both corners, and has the moved cells and the new ones between them. -/
theorem moveRange_exact (edit : LineEdit) {r : CellRange} (bounds : r.InBounds) :
    (edit.moveRangeInWords r = some (edit.moveRange r) ∧
      ∀ p ∈ r.cells, edit.movePositionInWords p = some (edit.movePosition p)) ∧
    (edit.moveRange r = none ↔ edit.Loses r) ∧
    ∀ r', edit.moveRange r = some r' →
      r'.InBounds ∧ (r'.first.SameMarkers r.first ∧ r'.last.SameMarkers r.last) ∧
      r'.cells = edit.imageOf r.cells ∪ edit.openedIn r := by
  refine ⟨⟨moveRangeInWords_eq edit bounds, fun p contains => ?_⟩, moveRange_eq_none bounds,
    fun r' moved => ⟨moveRange_inBounds bounds moved, (moveRange_iff.1 moved).2.2,
      cells_moveRange moved⟩⟩
  have upper := ((CellRange.contains_iff_along edit.axis).1 contains).1.2
  have inside := Position.inBounds_iff_along.1 bounds.2 edit.axis
  exact movePositionInWords_eq edit (Axis.succ_lt_rowWordBound (Nat.lt_of_le_of_lt upper inside))

def fixedCorners (height : Nat) : CellRange where
  first := { row := 1, column := 1, columnFixed := true }
  last := { row := 1 + height, column := 3, rowFixed := true }
  row_le := Nat.le_add_right 1 height
  column_le := Nat.le_add_right 1 2

theorem fixedCorners_grown :
    (fixedCorners 3).InBounds ∧
    (insert .row 2).moveRange (fixedCorners 3) = some (fixedCorners 4) ∧
    (fixedCorners 4).cells =
      (insert .row 2).imageOf (fixedCorners 3).cells ∪ (insert .row 2).openedIn (fixedCorners 3) ∧
    (⟨2, 1⟩ : Position) ∈ (insert .row 2).openedIn (fixedCorners 3) := by
  have bounds : (fixedCorners 3).InBounds := by
    constructor <;> decide
  have moved : (insert .row 2).moveRange (fixedCorners 3) = some (fixedCorners 4) := by decide
  obtain ⟨_, _, cells⟩ := (moveRange_exact (insert .row 2) bounds).2.2 (fixedCorners 4) moved
  refine ⟨bounds, moved, cells, ?_⟩
  refine ⟨⟨⟨?_, ?_⟩, rfl⟩, ?_, ?_⟩ <;> decide

end LineEdit

end Spreadsheet
