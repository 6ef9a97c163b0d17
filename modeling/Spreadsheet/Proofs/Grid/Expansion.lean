import Mathlib.Data.List.Nodup
import Spreadsheet.Proofs.Grid.InWords

namespace Spreadsheet.CellRange

variable {r r' : CellRange} {limits : Limits} {p : Position}

theorem columnCount_pos (r : CellRange) : 0 < r.columnCount := Nat.succ_pos _

theorem first_add_rowCount (r : CellRange) : r.first.row + r.rowCount = r.last.row + 1 := by
  have le := r.row_le
  unfold rowCount
  omega

theorem first_add_columnCount (r : CellRange) : r.first.column + r.columnCount = r.last.column + 1 := by
  have le := r.column_le
  unfold columnCount
  omega

theorem mem_positions_iff_lines : p ∈ r.positions ↔ p.row ∈ r.rows ∧ p.column ∈ r.columns := by
  unfold positions
  rw [List.mem_flatMap]
  constructor
  · rintro ⟨row, inRows, listed⟩
    obtain ⟨column, inColumns, rfl⟩ := List.mem_map.1 listed
    exact ⟨inRows, inColumns⟩
  · rintro ⟨inRows, inColumns⟩
    exact ⟨p.row, inRows, List.mem_map.2 ⟨p.column, inColumns, rfl⟩⟩

theorem mem_positions : p ∈ r.positions ↔ r.Contains p := by
  rw [mem_positions_iff_lines, rows, columns, List.mem_range'_1, List.mem_range'_1]
  have height := r.first_add_rowCount
  have width := r.first_add_columnCount
  unfold Contains
  omega

/-! ## Limits -/

theorem contains_clamped (cut : r.clamped limits = some r') :
    r'.Contains p ↔ r.Contains p ∧ limits.Contains p := by
  unfold clamped at cut
  split at cut
  · cases cut
    unfold Contains Limits.Contains CellRef.movedTo
    dsimp only
    omega
  · cases cut

theorem clamped_eq_none_iff : r.clamped limits = none ↔ ∀ p, r.Contains p → ¬ limits.Contains p := by
  have corner : r.clamped limits = none ↔ ¬ limits.Contains r.first.toPosition := by
    unfold clamped
    split
    · rename_i inside
      exact iff_of_false (Option.some_ne_none _) (not_not_intro inside)
    · rename_i outside
      exact iff_of_true rfl outside
  rw [corner]
  constructor
  · intro outside p contains inside
    exact outside ⟨Nat.lt_of_le_of_lt contains.1.1 inside.1, Nat.lt_of_le_of_lt contains.2.1 inside.2⟩
  · intro outside
    exact outside _ ⟨⟨Nat.le_refl _, r.row_le⟩, Nat.le_refl _, r.column_le⟩

theorem clamped_inBounds (bounds : r.InBounds) (cut : r.clamped limits = some r') : r'.InBounds := by
  unfold clamped at cut
  split at cut
  · cases cut
    exact ⟨bounds.1, Nat.lt_of_le_of_lt (Nat.min_le_left _ _) bounds.2.1,
      Nat.lt_of_le_of_lt (Nat.min_le_left _ _) bounds.2.2⟩
  · cases cut

theorem clamped_inside (inside : limits.Contains r.last.toPosition) : r.clamped limits = some r := by
  have rows := r.row_le
  have columns := r.column_le
  obtain ⟨row, column⟩ := inside
  have lastRow : min r.last.row (limits.rows - 1) = r.last.row := by omega
  have lastColumn : min r.last.column (limits.columns - 1) = r.last.column := by omega
  unfold clamped
  rw [dif_pos ⟨by omega, by omega⟩]
  simp only [lastRow, lastColumn]
  rfl

/-! ## Cells by number -/

def cellAt (r : CellRange) (k : Nat) : Position :=
  ⟨r.first.row + k / r.columnCount, r.first.column + k % r.columnCount⟩

theorem cellAt_mul_add (r : CellRange) (i : Nat) {j : Nat} (inRow : j < r.columnCount) :
    r.cellAt (i * r.columnCount + j) = ⟨r.first.row + i, r.first.column + j⟩ := by
  rw [cellAt, Nat.mul_comm, Nat.mul_add_div r.columnCount_pos, Nat.mul_add_mod,
    Nat.div_eq_of_lt inRow, Nat.mod_eq_of_lt inRow, Nat.add_zero]

theorem positions_eq (r : CellRange) : r.positions = (List.range r.cellCount).map r.cellAt := by
  unfold positions rows cellCount
  generalize r.rowCount = m
  induction m with
  | zero => simp
  | succ m ih =>
      rw [List.range'_concat, List.flatMap_append, ih, Nat.succ_mul m, List.range_add, List.map_append,
        List.flatMap_singleton, columns, List.range'_eq_map_range, List.map_map, List.map_map]
      congr 1
      refine List.map_congr_left fun j inRow => ?_
      rw [Function.comp_apply, Function.comp_apply, cellAt_mul_add r m (List.mem_range.1 inRow), Nat.one_mul]

theorem length_positions (r : CellRange) : r.positions.length = r.cellCount := by
  rw [positions_eq, List.length_map, List.length_range]

theorem cellAt_before (r : CellRange) {i j : Nat} (lt : i < j) :
    (r.cellAt i).row < (r.cellAt j).row ∨
      (r.cellAt i).row = (r.cellAt j).row ∧ (r.cellAt i).column < (r.cellAt j).column := by
  have rows : i / r.columnCount ≤ j / r.columnCount := Nat.div_le_div_right (Nat.le_of_lt lt)
  have before := Nat.div_add_mod i r.columnCount
  have after := Nat.div_add_mod j r.columnCount
  unfold cellAt
  dsimp only
  rcases Nat.lt_or_eq_of_le rows with above | same
  · omega
  · rw [← same] at after ⊢
    omega

theorem ordered_positions (r : CellRange) :
    r.positions.Pairwise fun p q => p.row < q.row ∨ p.row = q.row ∧ p.column < q.column := by
  rw [positions_eq]
  exact List.pairwise_map.2 (List.pairwise_lt_range.imp r.cellAt_before)

theorem count_positions (r : CellRange) (p : Position) :
    r.positions.count p = if r.Contains p then 1 else 0 := by
  have distinct : r.positions.Nodup := by
    refine r.ordered_positions.imp fun before same => ?_
    subst same
    omega
  simp only [distinct.count, mem_positions]

theorem cellAt_column_le (r : CellRange) (k : Nat) : (r.cellAt k).column ≤ r.last.column := by
  have inRow := Nat.mod_lt k r.columnCount_pos
  have width := r.first_add_columnCount
  unfold cellAt
  dsimp only
  omega

theorem cellAt_succ (r : CellRange) (k : Nat) :
    r.cellAt (k + 1) =
      if (r.cellAt k).column = r.last.column then ⟨(r.cellAt k).row + 1, r.first.column⟩
      else ⟨(r.cellAt k).row, (r.cellAt k).column + 1⟩ := by
  obtain ⟨i, j, inRow, rfl⟩ : ∃ i j, j < r.columnCount ∧ k = i * r.columnCount + j :=
    ⟨_, _, Nat.mod_lt k r.columnCount_pos, (Nat.div_add_mod' k r.columnCount).symm⟩
  have width := r.first_add_columnCount
  rw [cellAt_mul_add r i inRow]
  dsimp only
  split
  · have below : i * r.columnCount + j + 1 = (i + 1) * r.columnCount + 0 := by
      rw [Nat.succ_mul]
      omega
    rw [below, cellAt_mul_add r (i + 1) r.columnCount_pos]
    rfl
  · rw [Nat.add_assoc, cellAt_mul_add r i (by omega)]
    rfl

/-! ## Walks -/

def cursorAt (r : CellRange) (k : Nat) : Cursor := ⟨r.cellAt k, r.cellCount - k⟩

theorem cursor_eq (r : CellRange) : r.cursor = r.cursorAt 0 := by
  unfold cursor cursorAt cellAt
  rw [Nat.zero_div, Nat.zero_mod]
  rfl

variable {k : Nat}

theorem step?_cursorAt (before : k < r.cellCount) :
    r.step? (r.cursorAt k) = some (r.cellAt k, r.cursorAt (k + 1)) := by
  have left : r.cellCount - k = r.cellCount - (k + 1) + 1 := by omega
  unfold step? cursorAt
  rw [left, cellAt_succ]

theorem step?_cursorAt_cellCount (r : CellRange) : r.step? (r.cursorAt r.cellCount) = none := by
  unfold step? cursorAt
  rw [Nat.sub_self]

theorem drop_positions (before : k < r.cellCount) :
    r.positions.drop k = r.cellAt k :: r.positions.drop (k + 1) := by
  rw [List.drop_eq_getElem_cons (by rwa [length_positions])]
  simp only [positions_eq, List.getElem_map, List.getElem_range]

theorem take_cursorAt (n : Nat) (within : k ≤ r.cellCount) :
    r.take n (r.cursorAt k) =
      ((r.positions.drop k).take n, r.cursorAt (min (k + n) r.cellCount)) := by
  induction n generalizing k with
  | zero =>
      rw [Nat.add_zero, Nat.min_eq_left within]
      rfl
  | succ n ih =>
      rw [take]
      rcases Nat.lt_or_eq_of_le within with before | rfl
      · rw [step?_cursorAt before, drop_positions before, List.take_succ_cons]
        dsimp only
        rw [ih before, Nat.succ_add_eq_add_succ]
      · have behind : r.positions.drop r.cellCount = [] :=
          List.drop_eq_nil_of_le (Nat.le_of_eq r.length_positions)
        rw [step?_cursorAt_cellCount, behind, Nat.min_eq_right (Nat.le_add_right _ _), List.take_nil]

theorem take_cursor (r : CellRange) (n : Nat) :
    r.take n r.cursor = (r.positions.take n, r.cursorAt (min n r.cellCount)) := by
  rw [cursor_eq, take_cursorAt n (Nat.zero_le _), List.drop_zero, Nat.zero_add]

/-! ## Walks in machine words -/

theorem stepInWords_eq {c : Cursor} (le : c.next.column ≤ r.last.column)
    (room : r.last.column < columnWordBound) : r.stepInWords c = some (r.step? c) := by
  unfold stepInWords
  split
  · rfl
  · rw [wordSum_of_lt (by omega)]
    rfl

theorem column_le_of_step? {c c' : Cursor} (le : c.next.column ≤ r.last.column)
    (stepped : r.step? c = some (p, c')) : c'.next.column ≤ r.last.column := by
  unfold step? at stepped
  split at stepped
  · cases stepped
  · cases stepped
    dsimp only
    split
    · exact r.column_le
    · show c.next.column + 1 ≤ r.last.column
      omega

theorem walkInWords_eq (room : r.last.column < columnWordBound) (n : Nat) {c : Cursor}
    (le : c.next.column ≤ r.last.column) : r.walkInWords n c = some (r.take n c).1 := by
  induction n generalizing c with
  | zero => rfl
  | succ n ih =>
      rw [walkInWords, stepInWords_eq le room, take]
      cases stepped : r.step? c with
      | none => rfl
      | some next =>
          obtain ⟨p, c'⟩ := next
          show (r.walkInWords n c').map _ = _
          rw [ih (column_le_of_step? le stepped)]
          rfl

theorem InBounds.last_column_lt (bounds : r.InBounds) : r.last.column < columnWordBound :=
  Nat.lt_trans bounds.2.2 (by decide)

theorem positionsInWords_eq (bounds : r.InBounds) : r.positionsInWords = some r.positions := by
  rw [positionsInWords, cellCountInWords_eq bounds]
  show r.walkInWords r.cellCount r.cursor = _
  rw [walkInWords_eq bounds.last_column_lt _ r.column_le, take_cursor,
    List.take_of_length_le (Nat.le_of_eq r.length_positions)]

theorem cursorAt_fits (bounds : r.InBounds) (within : k ≤ r.cellCount) : (r.cursorAt k).Fits := by
  obtain ⟨_, lastRow, lastColumn⟩ := bounds
  have height := r.first_add_rowCount
  have width := r.first_add_columnCount
  have row : k / r.columnCount ≤ r.rowCount := Nat.div_le_of_le_mul (by rwa [Nat.mul_comm])
  have column := Nat.mod_lt k r.columnCount_pos
  have count : r.cellCount ≤ maxRows * maxColumns := Nat.mul_le_mul (by omega) (by omega)
  have words : maxRows < rowWordBound ∧ maxColumns < columnWordBound ∧ maxRows * maxColumns < UInt64.size := by
    decide
  unfold Cursor.Fits cursorAt cellAt
  dsimp only
  omega

theorem sizeHint_cursorAt (bounds : r.InBounds) (within : k ≤ r.cellCount) :
    (r.cursorAt k).sizeHint = (r.cellCount - k, some (r.cellCount - k)) := by
  have word : r.cellCount - k < UInt64.size := (cursorAt_fits bounds within).2
  rw [Cursor.sizeHint, cursorAt, Nat.mod_eq_of_lt word]

/-! ## Expanding and cutting -/

/-- Within notation the cells of a range are listed one at a time, each once and row by row, as many as
are counted. After any number of steps the cells in front have been taken, the length that is reported
is that of the others, every number of the cursor is a word, and the next step has room. Limits, also
those of nothing, leave the cells within them as a range again, and no range only if there are none. -/
theorem expansion_exact {r : CellRange} (bounds : r.InBounds) (limits : Limits) :
    ((∀ p, r.positions.count p = if r.Contains p then 1 else 0) ∧
      r.positions.Pairwise fun p q => p.row < q.row ∨ p.row = q.row ∧ p.column < q.column) ∧
    (r.cellCountInWords = some r.cellCount ∧ r.positions.length = r.cellCount ∧
      ∀ n, ∃ c, r.take n r.cursor = (r.positions.take n, c) ∧
        c.sizeHint = (r.cellCount - n, some (r.cellCount - n)) ∧
        c.Fits ∧ r.stepInWords c = some (r.step? c)) ∧
    r.clampedInWords limits = some (r.clamped limits) ∧
    (r.clamped limits = none ↔ ∀ p, r.Contains p → ¬ limits.Contains p) ∧
    ∀ r', r.clamped limits = some r' →
      (between r'.first r'.last = r' ∧ r'.InBounds) ∧
      ∀ p, r'.Contains p ↔ r.Contains p ∧ limits.Contains p := by
  refine ⟨⟨r.count_positions, r.ordered_positions⟩,
    ⟨cellCountInWords_eq bounds, r.length_positions, fun n => ?_⟩, r.clampedInWords_eq limits,
    clamped_eq_none_iff, fun r' cut => ⟨⟨r'.between_corners, clamped_inBounds bounds cut⟩,
      fun p => contains_clamped cut⟩⟩
  have within : min n r.cellCount ≤ r.cellCount := Nat.min_le_right _ _
  have left : r.cellCount - min n r.cellCount = r.cellCount - n := by omega
  refine ⟨_, r.take_cursor n, ?_, cursorAt_fits bounds within,
    stepInWords_eq (r.cellAt_column_le _) bounds.last_column_lt⟩
  rw [sizeHint_cursorAt bounds within, left]

def squareBackwards : CellRange :=
  between { row := 3, column := 3 } { row := 1, column := 1, rowFixed := true, columnFixed := true }

theorem squareBackwards_expanded :
    squareBackwards.InBounds ∧
    (∃ c, squareBackwards.take 4 squareBackwards.cursor = ([⟨1, 1⟩, ⟨1, 2⟩, ⟨1, 3⟩, ⟨2, 1⟩], c) ∧
      c.sizeHint = (5, some 5)) ∧
    squareBackwards.clamped ⟨0, 3⟩ = none ∧
    ∃ r', squareBackwards.clamped ⟨3, 3⟩ = some r' ∧
      ∀ p, r'.Contains p ↔ squareBackwards.Contains p ∧ p.row < 3 ∧ p.column < 3 := by
  have bounds : squareBackwards.InBounds := by
    constructor <;> decide
  obtain ⟨_, ⟨_, _, walk⟩, _, _, cut⟩ := expansion_exact bounds ⟨3, 3⟩
  obtain ⟨_, _, _, beyond, _⟩ := expansion_exact bounds ⟨0, 3⟩
  obtain ⟨c, taken, left, _⟩ := walk 4
  exact ⟨bounds, ⟨c, taken, left⟩, beyond.2 fun p _ inside => Nat.not_lt_zero _ inside.1,
    _, rfl, (cut _ rfl).2⟩

end Spreadsheet.CellRange
