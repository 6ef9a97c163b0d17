import Spreadsheet.Cell.Basic
import Spreadsheet.Grid.LineEdit

namespace Spreadsheet

abbrev CellStore := PositionMap Cell

structure Bounds where
  minRow : Nat
  minColumn : Nat
  maxRow : Nat
  maxColumn : Nat
deriving DecidableEq

namespace Bounds

def ofPosition (p : Position) : Bounds := ⟨p.row, p.column, p.row, p.column⟩

def extend (b : Bounds) (p : Position) : Bounds :=
  ⟨min b.minRow p.row, min b.minColumn p.column, max b.maxRow p.row, max b.maxColumn p.column⟩

def ofList : List Position → Option Bounds
  | [] => none
  | p :: ps => some (ps.foldl extend (ofPosition p))

def last (b : Bounds) : Axis → Nat
  | .row => b.maxRow
  | .column => b.maxColumn

end Bounds

def openedAt (k i : Nat) : Nat := if i < k then i else i + 1

def closedAt (k i : Nat) : Option Nat :=
  if i < k then some i else if i = k then none else some (i - 1)

namespace CellStore

def relocate (f : Position → Option Position) (s : CellStore) : CellStore :=
  .ofList (s.toList.filterMap fun (p, c) => (f p).map fun q => (q, c))

def insertLine (s : CellStore) (axis : Axis) (k : Nat) : CellStore :=
  s.relocate fun p => some (p.withAlong axis (openedAt k (p.along axis)))

def deleteLine (s : CellStore) (axis : Axis) (k : Nat) : CellStore :=
  s.relocate fun p => (closedAt k (p.along axis)).map (p.withAlong axis)

def line (s : CellStore) (axis : Axis) (k : Nat) : List (Position × Cell) :=
  s.toList.filter fun (p, _) => p.along axis == k

def bounds (s : CellStore) : Option Bounds := Bounds.ofList s.keys

end CellStore

end Spreadsheet
