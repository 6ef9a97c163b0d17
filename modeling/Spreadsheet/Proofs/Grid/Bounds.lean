import Spreadsheet.Grid.LineEdit

namespace Spreadsheet

theorem countLetters_le {letters cs : List Char} {count n : Nat} (start : count ≤ maxColumns)
    (h : countLetters letters count cs = .ok n) : n ≤ maxColumns := by
  induction cs generalizing count with
  | nil =>
      cases h
      exact start
  | cons c rest ih =>
      rw [countLetters] at h
      split at h
      · cases h
      · dsimp only at h
        split at h
        · cases h
        · exact ih (by omega) h

theorem columnIndex_lt {letters : List Char} {column : Nat} (h : columnIndex letters = .ok column) :
    column < maxColumns := by
  unfold columnIndex at h
  split at h
  · cases h
  · cases counted : countLetters letters 0 letters with
    | error fault =>
        rw [counted] at h
        cases h
    | ok n =>
        rw [counted] at h
        cases h
        have le := countLetters_le (by decide) counted
        have positive : 0 < maxColumns := by decide
        show n - 1 < maxColumns
        omega

namespace CellRef

theorem parseRow_lt {text : String} {digits : List Char} {row : Nat}
    (h : parseRow text digits = .ok row) : row < maxRows := by
  unfold parseRow at h
  split at h
  · cases h
  split at h
  · cases h
  dsimp only at h
  split at h
  · cases h
  split at h
  · cases h
  split at h
  · cases h
  · cases h
    omega

theorem inBounds_of_parse {cs : List Char} {ref : CellRef} (h : parse cs = .ok ref) :
    ref.InBounds := by
  unfold parse at h
  dsimp only at h
  split at h
  · cases h
  split at h
  · cases h
  cases column : columnIndex ((splitMarker (Text.trimBlanks cs)).2.takeWhile Char.isAlpha) with
  | error fault =>
      rw [column] at h
      cases h
  | ok n =>
      rw [column] at h
      dsimp only [Except.bind] at h
      cases row : parseRow (String.ofList (Text.trimBlanks cs))
          (splitMarker ((splitMarker (Text.trimBlanks cs)).2.dropWhile Char.isAlpha)).2 with
      | error fault =>
          rw [row] at h
          cases h
      | ok m =>
          rw [row] at h
          cases h
          exact ⟨parseRow_lt row, columnIndex_lt column⟩

end CellRef

def CellRange.InBounds (r : CellRange) : Prop := r.first.InBounds ∧ r.last.InBounds

theorem CellRange.between_inBounds {a b : CellRef} (ha : a.InBounds) (hb : b.InBounds) :
    (between a b).InBounds := by
  obtain ⟨rowA, columnA⟩ := ha
  obtain ⟨rowB, columnB⟩ := hb
  refine ⟨⟨?_, ?_⟩, ⟨?_, ?_⟩⟩ <;> dsimp only [between] <;> split <;> assumption

theorem CellRange.between_corners (r : CellRange) : between r.first r.last = r := by
  have row := r.row_le
  have column := r.column_le
  unfold between
  simp only [row, column, if_true]

theorem Position.inBounds_iff_along {p : Position} :
    p.InBounds ↔ ∀ axis : Axis, p.along axis < axis.bound := by
  constructor
  · intro h axis
    cases axis with
    | row => exact h.1
    | column => exact h.2
  · intro h
    exact ⟨h .row, h .column⟩

theorem Position.withAlong_inBounds {p : Position} {axis : Axis} {i : Nat} (h : p.InBounds)
    (bound : i < axis.bound) : (p.withAlong axis i).InBounds := by
  cases axis with
  | row => exact ⟨bound, h.2⟩
  | column => exact ⟨h.1, bound⟩

namespace LineEdit

theorem landing_eq_some {axis : Axis} {i j : Nat} :
    landing axis i = some j ↔ i < axis.bound ∧ i = j := by
  unfold landing
  by_cases inside : i < axis.bound
  · simp [inside]
  · simp [inside]

theorem moveIndex_lt {edit : LineEdit} {i j : Nat} (h : i < edit.axis.bound)
    (moved : edit.moveIndex i = some j) : j < edit.axis.bound := by
  cases edit with
  | insert axis k =>
      simp only [moveIndex] at moved
      split at moved
      · obtain ⟨bound, rfl⟩ := landing_eq_some.1 moved
        exact bound
      · cases moved
        exact h
  | delete axis k =>
      simp only [moveIndex] at moved
      split at moved
      · cases moved
      split at moved
      · obtain ⟨bound, rfl⟩ := landing_eq_some.1 moved
        exact bound
      · cases moved
        exact h

theorem movePosition_inBounds {edit : LineEdit} {p q : Position} (h : p.InBounds)
    (moved : edit.movePosition p = some q) : q.InBounds := by
  unfold movePosition at moved
  cases line : edit.moveIndex (p.along edit.axis) with
  | none =>
      rw [line] at moved
      cases moved
  | some j =>
      rw [line] at moved
      cases moved
      exact p.withAlong_inBounds h (moveIndex_lt (Position.inBounds_iff_along.1 h _) line)

theorem moveRef_inBounds {edit : LineEdit} {ref ref' : CellRef} (h : ref.InBounds)
    (moved : edit.moveRef ref = some ref') : ref'.InBounds := by
  unfold moveRef at moved
  cases target : edit.movePosition ref.toPosition with
  | none =>
      rw [target] at moved
      cases moved
  | some q =>
      rw [target] at moved
      cases moved
      exact movePosition_inBounds h target

theorem moveSpan_lt {edit : LineEdit} {first last a b : Nat} (hf : first < edit.axis.bound)
    (hl : last < edit.axis.bound) (moved : edit.moveSpan first last = some (a, b)) :
    a < edit.axis.bound ∧ b < edit.axis.bound := by
  cases edit with
  | insert axis k =>
      simp only [moveSpan, Option.bind_eq_some_iff, Option.map_eq_some_iff, Prod.mk.injEq] at moved
      obtain ⟨a', movedA, b', movedB, rfl, rfl⟩ := moved
      exact ⟨moveIndex_lt hf movedA, moveIndex_lt hl movedB⟩
  | delete axis k =>
      simp only [moveSpan] at moved
      split at moved
      · cases moved
      simp only [Option.bind_eq_some_iff, Option.map_eq_some_iff, Prod.mk.injEq] at moved
      obtain ⟨a', movedA, b', movedB, rfl, rfl⟩ := moved
      constructor
      · split at movedA
        · obtain ⟨bound, rfl⟩ := landing_eq_some.1 movedA
          exact bound
        · cases movedA
          exact hf
      · split at movedB
        · obtain ⟨bound, rfl⟩ := landing_eq_some.1 movedB
          exact bound
        · cases movedB
          exact hl

theorem moveRange_inBounds {edit : LineEdit} {r r' : CellRange} (h : r.InBounds)
    (moved : edit.moveRange r = some r') : r'.InBounds := by
  unfold moveRange at moved
  cases span : edit.moveSpan (r.first.along edit.axis) (r.last.along edit.axis) with
  | none =>
      rw [span] at moved
      cases moved
  | some ends =>
      rw [span] at moved
      cases moved
      have bounds := moveSpan_lt (Position.inBounds_iff_along.1 h.1 _)
        (Position.inBounds_iff_along.1 h.2 _) span
      exact CellRange.between_inBounds (Position.withAlong_inBounds h.1 bounds.1)
        (Position.withAlong_inBounds h.2 bounds.2)

end LineEdit

end Spreadsheet
