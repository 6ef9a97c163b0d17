import Spreadsheet.Proofs.Grid.Axes

namespace Spreadsheet

theorem CellRange.between_ordered {a b : CellRef} (row : a.row ≤ b.row)
    (column : a.column ≤ b.column) : (between a b).first = a ∧ (between a b).last = b := by
  simp [between, row, column]

namespace LineEdit

theorem moveIndex_injective {edit : LineEdit} {i j k : Nat} (hi : edit.moveIndex i = some k)
    (hj : edit.moveIndex j = some k) : i = j := by
  cases edit with
  | insert axis n =>
      rw [moveIndex_insert_iff] at hi hj
      omega
  | delete axis n =>
      rw [moveIndex_delete_iff] at hi hj
      omega

theorem movePosition_injective {edit : LineEdit} {p q p' : Position}
    (hp : edit.movePosition p = some p') (hq : edit.movePosition q = some p') : p = q := by
  obtain ⟨lineP, acrossP⟩ := movePosition_iff.1 hp
  obtain ⟨lineQ, acrossQ⟩ := movePosition_iff.1 hq
  exact Position.ext_along edit.axis (moveIndex_injective lineP lineQ) (acrossP.symm.trans acrossQ)

theorem moveSpan_le {edit : LineEdit} {first last a b : Nat} (le : first ≤ last)
    (moved : edit.moveSpan first last = some (a, b)) : a ≤ b := by
  cases edit with
  | insert axis k =>
      rw [moveSpan_insert_iff le] at moved
      omega
  | delete axis k =>
      rw [moveSpan_delete_iff le] at moved
      omega

theorem corners_of_moveRange {edit : LineEdit} {r r' : CellRange}
    (moved : edit.moveRange r = some r') : ∃ a b,
      edit.moveSpan (r.first.along edit.axis) (r.last.along edit.axis) = some (a, b) ∧
      r'.first = r.first.movedTo (r.first.withAlong edit.axis a) ∧
      r'.last = r.last.movedTo (r.last.withAlong edit.axis b) := by
  obtain ⟨⟨a, b⟩, span, rfl⟩ := Option.map_eq_some_iff.1 moved
  refine ⟨a, b, span, ?_⟩
  have rows := r.row_le
  have columns := r.column_le
  generalize edit.axis = axis at *
  cases axis with
  | row => exact CellRange.between_ordered (moveSpan_le rows span) columns
  | column => exact CellRange.between_ordered rows (moveSpan_le columns span)

theorem exists_moveRange (edit : LineEdit) {r : CellRange} {a b : Nat}
    (span : edit.moveSpan (r.first.along edit.axis) (r.last.along edit.axis) = some (a, b)) :
    ∃ r', edit.moveRange r = some r' := by
  unfold moveRange
  rw [span]
  exact ⟨_, rfl⟩

theorem moveRange_iff {edit : LineEdit} {r r' : CellRange} :
    edit.moveRange r = some r' ↔
      edit.moveSpan (r.first.along edit.axis) (r.last.along edit.axis) =
        some (r'.first.along edit.axis, r'.last.along edit.axis) ∧
      (r'.first.along edit.axis.other = r.first.along edit.axis.other ∧
        r'.last.along edit.axis.other = r.last.along edit.axis.other) ∧
      r'.first.SameMarkers r.first ∧ r'.last.SameMarkers r.last := by
  constructor
  · intro moved
    obtain ⟨a, b, span, first, last⟩ := corners_of_moveRange moved
    rw [first, last]
    refine ⟨?_, ⟨Position.withAlong_other .., Position.withAlong_other ..⟩, ⟨rfl, rfl⟩, rfl, rfl⟩
    exact span.trans (by simp only [CellRef.movedTo, Position.withAlong_along])
  · rintro ⟨span, ⟨acrossFirst, acrossLast⟩, first, last⟩
    obtain ⟨r'', moved⟩ := exists_moveRange edit span
    obtain ⟨a, b, span', first', last'⟩ := corners_of_moveRange moved
    rw [span] at span'
    obtain ⟨rfl, rfl⟩ := Prod.mk.inj (Option.some.inj span')
    rw [moved, Option.some.injEq]
    refine CellRange.ext_corners ?_ ?_
    · rw [first']
      exact CellRef.ext_markers (Position.eq_withAlong_iff.2 ⟨rfl, acrossFirst⟩).symm first.symm
    · rw [last']
      exact CellRef.ext_markers (Position.eq_withAlong_iff.2 ⟨rfl, acrossLast⟩).symm last.symm

theorem span_moveIndex {edit : LineEdit} {first last a b i j : Nat} (le : first ≤ last)
    (span : edit.moveSpan first last = some (a, b)) (moved : edit.moveIndex i = some j) :
    (a ≤ j ∧ j ≤ b) ↔ first ≤ i ∧ i ≤ last := by
  cases edit with
  | insert axis k =>
      rw [moveSpan_insert_iff le] at span
      rw [moveIndex_insert_iff] at moved
      omega
  | delete axis k =>
      rw [moveSpan_delete_iff le] at span
      rw [moveIndex_delete_iff] at moved
      omega

theorem contains_moveRange {edit : LineEdit} {r r' : CellRange} {p p' : Position}
    (range : edit.moveRange r = some r') (position : edit.movePosition p = some p') :
    r'.Contains p' ↔ r.Contains p := by
  obtain ⟨span, ⟨first, last⟩, _⟩ := moveRange_iff.1 range
  obtain ⟨line, across⟩ := movePosition_iff.1 position
  rw [CellRange.contains_iff_along edit.axis, CellRange.contains_iff_along edit.axis, first, last, across,
    span_moveIndex (r.along_le edit.axis) span line]

theorem moveRange_single (edit : LineEdit) (ref : CellRef) :
    edit.moveRange (.single ref) = (edit.moveRef ref).map .single := by
  have span : ∀ i, edit.moveSpan i i = (edit.moveIndex i).map fun j => (j, j) := by
    intro i
    cases edit with
    | insert axis k => simp only [moveSpan]; cases (insert axis k).moveIndex i <;> rfl
    | delete axis k =>
        simp only [moveSpan, moveIndex, and_self]
        by_cases on : i = k
        · rw [if_pos on, if_pos on]
          rfl
        · rw [if_neg on, if_neg on]
          by_cases behind : k < i
          · rw [if_pos behind, if_pos (Nat.le_of_lt behind)]
            cases landing axis (i - 1) <;> rfl
          · rw [if_neg behind, if_neg (by omega)]
            rfl
  unfold moveRange moveRef movePosition CellRange.single
  rw [span, Option.map_map, Option.map_map, Option.map_map]
  congr 1
  funext j
  exact CellRange.between_corners (.single (ref.movedTo (ref.withAlong edit.axis j)))

/-- The lines from `first` to `last` stay together: none of them is deleted and none is inserted
between them. -/
def Spares : LineEdit → (first last : Nat) → Prop
  | insert _ k, first, last => ¬ (first < k ∧ k ≤ last)
  | delete _ k, first, last => ¬ (first ≤ k ∧ k ≤ last)

instance (edit : LineEdit) (first last : Nat) : Decidable (edit.Spares first last) :=
  match edit with
  | insert .. => inferInstanceAs (Decidable (¬ _))
  | delete .. => inferInstanceAs (Decidable (¬ _))

structure Carries (edit : LineEdit) (limits : Limits) (r : CellRange) : Prop where
  inside : limits.Contains r.last.toPosition
  spared : edit.Spares (r.first.along edit.axis) (r.last.along edit.axis)
  lands : ∃ r', edit.moveRange r = some r' ∧ limits.Contains r'.last.toPosition

theorem Spares.together {edit : LineEdit} {first last a b : Nat} (spared : edit.Spares first last)
    (le : first ≤ last) (span : edit.moveSpan first last = some (a, b)) :
    b = a + (last - first) ∧
      ∀ n, first + n ≤ last → edit.moveIndex (first + n) = some (a + n) := by
  cases edit with
  | insert axis k =>
      rw [moveSpan_insert_iff le] at span
      simp only [Spares] at spared
      refine ⟨by omega, fun n within => ?_⟩
      rw [moveIndex_insert_iff]
      omega
  | delete axis k =>
      rw [moveSpan_delete_iff le] at span
      simp only [Spares] at spared
      refine ⟨by omega, fun n within => ?_⟩
      rw [moveIndex_delete_iff]
      omega

theorem Carries.shifted {edit : LineEdit} {limits : Limits} {r : CellRange}
    (h : edit.Carries limits r) : ∃ r', edit.moveRange r = some r' ∧
      limits.Contains r'.last.toPosition ∧
      (r'.rowCount = r.rowCount ∧ r'.columnCount = r.columnCount) ∧
      ∀ i < r.rowCount, ∀ j < r.columnCount,
        edit.movePosition ⟨r.first.row + i, r.first.column + j⟩ =
          some ⟨r'.first.row + i, r'.first.column + j⟩ := by
  obtain ⟨r', moved, inside⟩ := h.lands
  obtain ⟨a, b, span, first, last⟩ := corners_of_moveRange moved
  have spared := h.spared
  have rows := r.row_le
  have columns := r.column_le
  refine ⟨r', moved, inside, ?_⟩
  unfold CellRange.rowCount CellRange.columnCount movePosition
  rw [first, last]
  generalize edit.axis = axis at *
  cases axis with
  | row =>
      obtain ⟨width, lines⟩ := spared.together rows span
      simp only [Position.along] at width lines
      refine ⟨⟨?_, rfl⟩, fun i below j _ => ?_⟩
      · show b - a + 1 = _
        omega
      · show (edit.moveIndex (r.first.row + i)).map _ = _
        rw [lines i (by omega)]
        rfl
  | column =>
      obtain ⟨width, lines⟩ := spared.together columns span
      simp only [Position.along] at width lines
      refine ⟨⟨rfl, ?_⟩, fun i _ j below => ?_⟩
      · show b - a + 1 = _
        omega
      · show (edit.moveIndex (r.first.column + j)).map _ = _
        rw [lines j (by omega)]
        rfl

end LineEdit

end Spreadsheet
