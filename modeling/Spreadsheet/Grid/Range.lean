import Spreadsheet.Grid.Limits
import Spreadsheet.Grid.Reference

namespace Spreadsheet

inductive RangeFault
  | cell (fault : AddressFault)
  | corner (text : String) (fault : AddressFault)
deriving DecidableEq

structure CellRange where
  first : CellRef
  last : CellRef
  row_le : first.row ≤ last.row
  column_le : first.column ≤ last.column
deriving DecidableEq

namespace CellRange

def between (a b : CellRef) : CellRange where
  first :=
    { row := if a.row ≤ b.row then a.row else b.row
      rowFixed := if a.row ≤ b.row then a.rowFixed else b.rowFixed
      column := if a.column ≤ b.column then a.column else b.column
      columnFixed := if a.column ≤ b.column then a.columnFixed else b.columnFixed }
  last :=
    { row := if a.row ≤ b.row then b.row else a.row
      rowFixed := if a.row ≤ b.row then b.rowFixed else a.rowFixed
      column := if a.column ≤ b.column then b.column else a.column
      columnFixed := if a.column ≤ b.column then b.columnFixed else a.columnFixed }
  row_le := by dsimp only; split <;> omega
  column_le := by dsimp only; split <;> omega

def single (ref : CellRef) : CellRange := ⟨ref, ref, Nat.le_refl _, Nat.le_refl _⟩

def write (r : CellRange) : List Char := r.first.write ++ ':' :: r.last.write

def parse (cs : List Char) : Except RangeFault CellRange :=
  let cs := Text.trimBlanks cs
  match cs.dropWhile (· ≠ ':') with
  | [] => ((CellRef.parse cs).map single).mapError .cell
  | _ :: rest =>
    let corner (side : List Char) : Except RangeFault CellRef :=
      (CellRef.parse side).mapError (.corner (String.ofList cs))
    (corner (cs.takeWhile (· ≠ ':'))).bind fun a => (corner rest).map (between a)

def Contains (r : CellRange) (p : Position) : Prop :=
  (r.first.row ≤ p.row ∧ p.row ≤ r.last.row) ∧ r.first.column ≤ p.column ∧ p.column ≤ r.last.column

instance (r : CellRange) (p : Position) : Decidable (r.Contains p) :=
  inferInstanceAs (Decidable (_ ∧ _))

def rowCount (r : CellRange) : Nat := r.last.row - r.first.row + 1

def columnCount (r : CellRange) : Nat := r.last.column - r.first.column + 1

def cellCount (r : CellRange) : Nat := r.rowCount * r.columnCount

def rows (r : CellRange) : List Nat := List.range' r.first.row r.rowCount

def columns (r : CellRange) : List Nat := List.range' r.first.column r.columnCount

def positions (r : CellRange) : List Position :=
  r.rows.flatMap fun row => r.columns.map fun column => ⟨row, column⟩

def clamped (r : CellRange) (limits : Limits) : Option CellRange :=
  if h : r.first.row < limits.rows ∧ r.first.column < limits.columns then
    some
      { first := r.first
        last := r.last.movedTo
          ⟨min r.last.row (limits.rows - 1), min r.last.column (limits.columns - 1)⟩
        row_le := by have := r.row_le; simp only [CellRef.movedTo]; omega
        column_le := by have := r.column_le; simp only [CellRef.movedTo]; omega }
  else none

/-- A walk over a range: the next cell and how many are left, that one included. -/
structure Cursor where
  next : Position
  left : Nat

def cursor (r : CellRange) : Cursor := ⟨r.first.toPosition, r.cellCount⟩

def step? (r : CellRange) (c : Cursor) : Option (Position × Cursor) :=
  match c.left with
  | 0 => none
  | left + 1 =>
    let next : Position :=
      if c.next.column = r.last.column then ⟨c.next.row + 1, r.first.column⟩
      else { c.next with column := c.next.column + 1 }
    some (c.next, ⟨next, left⟩)

def take (r : CellRange) : Nat → Cursor → List Position × Cursor
  | 0, c => ([], c)
  | n + 1, c =>
    match r.step? c with
    | none => ([], c)
    | some (p, c) => let (ps, c) := r.take n c; (p :: ps, c)

end CellRange

end Spreadsheet
