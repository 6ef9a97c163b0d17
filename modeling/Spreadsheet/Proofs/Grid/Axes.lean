import Spreadsheet.Proofs.Grid.Bounds
import Spreadsheet.Proofs.Grid.ReferenceText

namespace Spreadsheet

def Axis.other : Axis → Axis
  | row => column
  | column => row

def CellRef.SameMarkers (a b : CellRef) : Prop :=
  a.rowFixed = b.rowFixed ∧ a.columnFixed = b.columnFixed

theorem CellRef.SameMarkers.symm {a b : CellRef} (h : a.SameMarkers b) : b.SameMarkers a :=
  ⟨h.1.symm, h.2.symm⟩

theorem CellRef.SameMarkers.trans {a b c : CellRef} (h : a.SameMarkers b) (h' : b.SameMarkers c) :
    a.SameMarkers c := ⟨h.1.trans h'.1, h.2.trans h'.2⟩

theorem CellRef.ext_markers {a b : CellRef} (position : a.toPosition = b.toPosition)
    (markers : a.SameMarkers b) : a = b := by
  obtain ⟨⟨row, column⟩, rowFixed, columnFixed⟩ := a
  obtain ⟨_, _, _⟩ := b
  obtain ⟨rfl, rfl⟩ := markers
  obtain rfl := position
  rfl

namespace Position

theorem ext_along {p q : Position} (axis : Axis) (here : p.along axis = q.along axis)
    (across : p.along axis.other = q.along axis.other) : p = q := by
  obtain ⟨row, column⟩ := p
  obtain ⟨row', column'⟩ := q
  cases axis with
  | row =>
      obtain rfl : row = row' := here
      obtain rfl : column = column' := across
      rfl
  | column =>
      obtain rfl : column = column' := here
      obtain rfl : row = row' := across
      rfl

@[simp] theorem withAlong_along (p : Position) (axis : Axis) (i : Nat) :
    (p.withAlong axis i).along axis = i := by cases axis <;> rfl

@[simp] theorem withAlong_other (p : Position) (axis : Axis) (i : Nat) :
    (p.withAlong axis i).along axis.other = p.along axis.other := by cases axis <;> rfl

theorem along_withAlong (p : Position) (axis axis' : Axis) (i : Nat) :
    (p.withAlong axis i).along axis' = if axis' = axis then i else p.along axis' := by
  cases axis <;> cases axis' <;> rfl

theorem eq_withAlong_iff {p q : Position} {axis : Axis} {i : Nat} :
    q = p.withAlong axis i ↔ q.along axis = i ∧ q.along axis.other = p.along axis.other := by
  constructor
  · rintro rfl
    exact ⟨withAlong_along p axis i, withAlong_other p axis i⟩
  · rintro ⟨here, across⟩
    exact ext_along axis (by rw [here, withAlong_along]) (by rw [across, withAlong_other])

end Position

namespace CellRange

theorem along_le (r : CellRange) (axis : Axis) : r.first.along axis ≤ r.last.along axis := by
  cases axis with
  | row => exact r.row_le
  | column => exact r.column_le

theorem contains_iff_along {r : CellRange} {p : Position} (axis : Axis) :
    r.Contains p ↔ (r.first.along axis ≤ p.along axis ∧ p.along axis ≤ r.last.along axis) ∧
      r.first.along axis.other ≤ p.along axis.other ∧
      p.along axis.other ≤ r.last.along axis.other := by
  cases axis with
  | row => exact Iff.rfl
  | column => exact and_comm

theorem ext_corners {r r' : CellRange} (first : r.first = r'.first) (last : r.last = r'.last) :
    r = r' := by
  obtain ⟨_, _, _, _⟩ := r
  obtain ⟨_, _, _, _⟩ := r'
  obtain rfl := first
  obtain rfl := last
  rfl

end CellRange

namespace LineEdit
variable {edit : LineEdit} {axis : Axis} {first last a b i j k : Nat}

theorem moveIndex_insert_iff :
    (insert axis k).moveIndex i = some j ↔
      (i < k ∧ j = i) ∨ (k ≤ i ∧ i + 1 < axis.bound ∧ j = i + 1) := by
  rw [moveIndex]
  split
  · rw [landing_eq_some]
    omega
  · rw [Option.some.injEq]
    omega

theorem moveIndex_delete_iff :
    (delete axis k).moveIndex i = some j ↔
      (i < k ∧ j = i) ∨ (k < i ∧ j < axis.bound ∧ j + 1 = i) := by
  rw [moveIndex]
  split
  · simp only [reduceCtorEq, false_iff]
    omega
  · split
    · rw [landing_eq_some]
      omega
    · rw [Option.some.injEq]
      omega

theorem moveSpan_insert_iff (le : first ≤ last) :
    (insert axis k).moveSpan first last = some (a, b) ↔
      (last < k ∧ a = first ∧ b = last) ∨
      ((first < k ∧ k ≤ last) ∧ last + 1 < axis.bound ∧ a = first ∧ b = last + 1) ∨
      (k ≤ first ∧ last + 1 < axis.bound ∧ a = first + 1 ∧ b = last + 1) := by
  simp only [moveSpan, Option.bind_eq_some_iff, Option.map_eq_some_iff, Prod.mk.injEq,
    moveIndex_insert_iff]
  constructor
  · rintro ⟨_, goesFirst, _, goesLast, rfl, rfl⟩
    omega
  · intro cases
    exact ⟨a, by omega, b, by omega, rfl, rfl⟩

theorem moveSpan_delete_iff (le : first ≤ last) :
    (delete axis k).moveSpan first last = some (a, b) ↔
      (last < k ∧ a = first ∧ b = last) ∨
      ((first ≤ k ∧ k ≤ last) ∧ first < last ∧ b < axis.bound ∧ a = first ∧ b + 1 = last) ∨
      (k < first ∧ b < axis.bound ∧ a + 1 = first ∧ b + 1 = last) := by
  unfold moveSpan
  dsimp only
  split
  · simp only [reduceCtorEq, false_iff]
    omega
  · simp only [Option.bind_eq_some_iff, Option.map_eq_some_iff, Prod.mk.injEq]
    constructor
    · rintro ⟨_, goesFirst, _, goesLast, rfl, rfl⟩
      split at goesFirst <;> split at goesLast <;>
        simp only [landing_eq_some, Option.some.injEq] at goesFirst goesLast <;> omega
    · intro cases
      refine ⟨a, ?_, b, ?_, rfl, rfl⟩
      · split <;> simp only [landing_eq_some, Option.some.injEq] <;> omega
      · split <;> simp only [landing_eq_some, Option.some.injEq] <;> omega

theorem movePosition_iff {p q : Position} :
    edit.movePosition p = some q ↔
      edit.moveIndex (p.along edit.axis) = some (q.along edit.axis) ∧
        q.along edit.axis.other = p.along edit.axis.other := by
  unfold movePosition
  simp only [Option.map_eq_some_iff, eq_comm (b := q), Position.eq_withAlong_iff]
  constructor
  · rintro ⟨i, moved, rfl, across⟩
    exact ⟨moved, across⟩
  · rintro ⟨moved, across⟩
    exact ⟨_, moved, rfl, across⟩

end LineEdit

end Spreadsheet
