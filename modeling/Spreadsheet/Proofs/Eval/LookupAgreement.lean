import Spreadsheet.Proofs.Eval.Tables
import Spreadsheet.Proofs.Number.Counts

namespace Spreadsheet

namespace Lookup
open FormulaValue (Rectangular)

/-! ## Tables on their side -/

def firstColumn (rows : List (List CellValue)) : List CellValue :=
  rows.map fun cells => cells.headD .empty

def transpose (rows : List (List CellValue)) : List (List CellValue) :=
  (List.range (columnCount rows)).map fun j => rows.map fun cells => cells.getD j .empty

variable {rows : List (List CellValue)}

theorem columnCount_spec (rectangular : (FormulaValue.table rows).Rectangular) :
    0 < columnCount rows ∧ ∀ cells ∈ rows, cells.length = columnCount rows := by
  obtain ⟨some, width, positive, lengths⟩ := rectangular
  have same : columnCount rows = width := columnCount_eq some lengths
  rw [same]
  exact ⟨positive, lengths⟩

theorem getElem?_transpose {j : Nat} (inside : j < columnCount rows) :
    (transpose rows)[j]? = some (rows.map fun cells => cells.getD j .empty) := by
  rw [transpose, List.getElem?_map, List.getElem?_range inside]
  rfl

theorem columnCount_transpose (rectangular : (FormulaValue.table rows).Rectangular) :
    columnCount (transpose rows) = rows.length := by
  rw [columnCount, List.head?_eq_getElem?, getElem?_transpose (columnCount_spec rectangular).1]
  exact List.length_map _

theorem firstColumn_transpose (rectangular : (FormulaValue.table rows).Rectangular) :
    firstColumn (transpose rows) = rows.headD [] := by
  cases rows with
  | nil => exact absurd rfl rectangular.1
  | cons cells rest =>
      refine List.ext_getElem (by simp [firstColumn, transpose, columnCount]) fun j _ inside => ?_
      have inside : j < cells.length := inside
      simp [firstColumn, transpose, inside]

theorem cellAt_transpose (rectangular : (FormulaValue.table rows).Rectangular) (row column : Nat) :
    cellAt (transpose rows) column row = cellAt rows row column := by
  obtain ⟨_, lengths⟩ := columnCount_spec rectangular
  rw [cellAt, cellAt]
  refine if_congr or_comm rfl ?_
  by_cases inside : column - 1 < columnCount rows
  · rw [getElem?_transpose inside, Option.bind_some, List.getElem?_map]
    cases line : rows[row - 1]? with
    | none => rfl
    | some cells =>
        have within : column - 1 < cells.length := lengths cells (List.mem_of_getElem? line) ▸ inside
        simp [within]
  · have beyond : (transpose rows)[column - 1]? = none := by
      rw [List.getElem?_eq_none]
      simpa [transpose] using inside
    rw [beyond]
    cases line : rows[row - 1]? with
    | none => rfl
    | some cells =>
        have outside : ¬ column - 1 < cells.length :=
          lengths cells (List.mem_of_getElem? line) ▸ inside
        exact (List.getElem?_eq_none (Nat.le_of_not_lt outside)).symm

theorem horizontal_eq_vertical (rectangular : (FormulaValue.table rows).Rectangular)
    (key index : FormulaValue) (mode : Option FormulaValue) :
    horizontal key (.table rows) index mode = vertical key (.table (transpose rows)) index mode := by
  have keys := firstColumn_transpose rectangular
  unfold firstColumn at keys
  simp only [horizontal, vertical, FormulaValue.grid, keys, columnCount_transpose rectangular,
    cellAt_transpose rectangular]

/-! ## Matching and indexing -/

def flagMode (approximate : Bool) : MatchMode := if approximate then .nextSmaller else .exact

theorem tableMode_flag (approximate : Bool) :
    tableMode (some (.boolean approximate)) = .ok (flagMode approximate) := rfl

theorem matchMode_flag (approximate : Bool) :
    matchMode (some (.number (if approximate then 1 else 0))) = .ok (flagMode approximate) := by
  cases approximate with
  | true =>
      have positive : (0 : Float) < 1 := by decide +kernel
      exact congrArg Except.ok (if_pos positive)
  | false =>
      have zero : ¬ (0 : Float) < 0 := by decide +kernel
      exact congrArg Except.ok ((if_neg zero).trans (if_neg zero))

theorem positiveIndex_number {x : Float} (positive : 1 ≤ Binary64.truncate x) :
    positiveIndex (.number x) = .ok (Binary64.truncate x).toNat :=
  if_neg (Binary64.not_trunc_lt_one positive)

theorem positiveIndex_count {n : Nat} (positive : 0 < n) (exact : n ≤ 2 ^ 53) :
    positiveIndex (.number (Binary64.ofNat n)) = .ok n := by
  have whole := Binary64.truncate_ofNat exact
  rw [positiveIndex_number (by omega), whole]
  rfl

variable {k : CellValue} {x : Float} {approximate : Bool}

theorem locate_flag {keys : List CellValue} {width : Nat} (positive : 1 ≤ Binary64.truncate x)
    (inside : Binary64.truncate x ≤ width) :
    locate (.scalar k) keys width (.number x) (some (.boolean approximate)) =
      match findPosition k keys (flagMode approximate) with
      | some pos => .ok (pos + 1, (Binary64.truncate x).toNat)
      | none => .error .notAvailable := by
  have within : ¬ width < (Binary64.truncate x).toNat := by omega
  rw [locate, positiveIndex_number positive, tableMode_flag]
  exact if_neg within

theorem matchPosition_column (keys : List CellValue) :
    matchPosition (.scalar k) (.table (keys.map fun c => [c]))
        (some (.number (if approximate then 1 else 0))) =
      match findPosition k keys (flagMode approximate) with
      | some pos => .ok (pos + 1)
      | none => .error .notAvailable := by
  cases keys with
  | nil => rfl
  | cons c rest =>
      have keys : ((c :: rest).map fun c => [c]).flatten = c :: rest := by
        rw [← List.flatMap_def, List.flatMap_singleton']
      have narrow : ¬ (((c :: rest).map fun c => [c]).length ≠ 1 ∧
          columnCount ((c :: rest).map fun c => [c]) ≠ 1) := fun wide => wide.2 rfl
      rw [matchPosition, matchMode_flag]
      refine (if_neg narrow).trans ?_
      rw [FormulaValue.grid, keys]
      rfl

theorem indexPlace_count {pos : Nat} (exact : pos + 1 ≤ 2 ^ 53)
    (positive : 1 ≤ Binary64.truncate x) :
    indexPlace rows (.number (Binary64.ofNat (pos + 1))) (some (.number x)) =
      .ok (pos + 1, (Binary64.truncate x).toNat) := by
  rw [indexPlace, positiveIndex_count (Nat.succ_pos pos) exact]
  change (do return (pos + 1, ← positiveIndex (.number x))) = _
  rw [positiveIndex_number positive]
  rfl

end Lookup

namespace Builtin
open Lookup

variable {rows : List (List CellValue)} {k : CellValue} {x : Float} {approximate : Bool} {pos : Nat}

section
variable (noError : (FormulaValue.scalar k).errorCode? = none)
include noError

theorem vlookup_flag (positive : 1 ≤ Binary64.truncate x)
    (inside : Binary64.truncate x ≤ columnCount rows) :
    vlookup.call [.scalar k, .table rows, .number x, .boolean approximate] =
      match findPosition k (firstColumn rows) (flagMode approximate) with
      | some pos => (cellAt rows (pos + 1) (Binary64.truncate x).toNat).map .scalar
      | none => some (.error .notAvailable) := by
  have located : locate (.scalar k) (firstColumn rows) (columnCount rows) (.number x)
      (some (.boolean approximate)) = _ := locate_flag positive inside
  rw [call_of_scalars rfl (by simpa using ⟨noError, rfl, rfl, rfl⟩), run?, vertical]
  unfold firstColumn at *
  dsimp only [FormulaValue.grid]
  rw [located]
  cases findPosition k (rows.map fun cells => cells.headD .empty) (flagMode approximate) <;> rfl

theorem matchKey_flag (keys : List CellValue) :
    matchKey.call [.scalar k, .table (keys.map fun c => [c]),
        .number (if approximate then 1 else 0)] =
      some (FormulaValue.countAnswer (match findPosition k keys (flagMode approximate) with
        | some pos => .ok (pos + 1)
        | none => .error .notAvailable)) := by
  rw [call_of_scalars rfl (by simpa using ⟨noError, rfl, rfl⟩), run?, matchPosition_column]

end

theorem index_count (exact : pos + 1 ≤ 2 ^ 53) (positive : 1 ≤ Binary64.truncate x) :
    index.call [.table rows, .number (Binary64.ofNat (pos + 1)), .number x] =
      some (.scalar
        ((cellAt rows (pos + 1) (Binary64.truncate x).toNat).getD (.error .brokenReference))) := by
  have inside : ¬ (pos + 1 = 0 ∨ (Binary64.truncate x).toNat = 0) := by omega
  rw [call_of_scalars rfl (by simpa using ⟨rfl, rfl, rfl⟩), run?, Lookup.index]
  dsimp only [FormulaValue.grid]
  rw [indexPlace_count exact positive]
  dsimp only [answerAt]
  rw [if_neg inside]
  rfl

/-- Looking a key up in the first column of a table is indexing the table by the match of the key,
and looking it up in the first row is looking it up in the first column of the table on its side,
whatever the index. A match is counted by a number, exactly so up to `2 ^ 53`, which is more rows than
memory holds. -/
theorem lookups_agree (rectangular : (FormulaValue.table rows).Rectangular)
    (noError : k.isError = false) (approximate : Bool) :
    (rows.length ≤ 2 ^ 53 → ∀ x, 1 ≤ Binary64.truncate x → Binary64.truncate x ≤ columnCount rows →
      vlookup.call [.scalar k, .table rows, .number x, .boolean approximate] =
        do index.call [.table rows,
          ← matchKey.call [.scalar k, .table ((firstColumn rows).map fun c => [c]),
            .number (if approximate then 1 else 0)],
          .number x]) ∧
    ∀ index, hlookup.call [.scalar k, .table rows, index, .boolean approximate] =
      vlookup.call [.scalar k, .table (transpose rows), index, .boolean approximate] := by
  have key : (FormulaValue.scalar k).errorCode? = none :=
    Option.not_isSome_iff_eq_none.1 (Bool.eq_false_iff.1 noError)
  constructor
  · intro countable x positive inside
    rw [vlookup_flag key positive inside, matchKey_flag key]
    cases found : findPosition k (firstColumn rows) (flagMode approximate) with
    | none => rfl
    | some pos =>
        have bound : pos < rows.length := by simpa [firstColumn] using findPosition_lt found
        have counted : FormulaValue.countAnswer (.ok (pos + 1)) =
            .number (Binary64.ofNat (pos + 1)) := by
          rw [FormulaValue.countAnswer, FormulaValue.ofAnswer, Nat.min_eq_left]
          exact Nat.le_trans (by omega) (show 2 ^ 53 ≤ UInt64.size - 1 by decide)
        have inside' : (cellAt rows (pos + 1) (Binary64.truncate x).toNat).isSome = true :=
          cellAt_isSome (columnCount_spec rectangular).2 (Nat.succ_pos pos) bound (by omega) (by omega)
        obtain ⟨c, cell⟩ := Option.isSome_iff_exists.1 inside'
        dsimp only
        rw [Option.bind_eq_bind, Option.bind_some, counted, index_count (by omega) positive, cell]
        rfl
  · intro index
    rw [call, call, run?, run?, horizontal_eq_vertical rectangular]
    rfl

def listing : List (List CellValue) := [[.number 10, .text "box"], [.number 20, .error .notAvailable]]

theorem listing_agrees :
    vlookup.call [.number 25, .table listing, .number 2, .boolean true] =
      (do index.call [.table listing,
        ← matchKey.call [.number 25, .table [[.number 10], [.number 20]], .number 1], .number 2]) ∧
    hlookup.call [.number 25, .table listing, .number (-1), .boolean true] =
      vlookup.call [.number 25,
        .table [[.number 10, .number 20], [.text "box", .error .notAvailable]], .number (-1),
        .boolean true] := by
  have rectangular : (FormulaValue.table listing).Rectangular :=
    ⟨List.cons_ne_nil _ _, 2, by decide, by simp [FormulaValue.grid, listing]⟩
  have two : Binary64.truncate 2 = 2 := by decide +kernel
  have agree := lookups_agree rectangular (k := .number 25) rfl true
  exact ⟨agree.1 (by decide) 2 (by omega) (by rw [two]; decide), agree.2 (.number (-1))⟩

end Builtin

end Spreadsheet
