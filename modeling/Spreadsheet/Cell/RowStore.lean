import Spreadsheet.Cell.Store
import Spreadsheet.Grid.InWords

/-!
# Storage by rows

The cells of a grid as they are kept: a map of the rows, each of them a map of its cells by column. No
row is kept once its last cell is gone. A line edit splits a map of lines in two and puts the back part
in again with every line one further on or back; line numbers are machine words, and `none` stands for
one that is not.
-/

namespace Spreadsheet

abbrev LineMap (α : Type) := Std.ExtTreeMap Nat α

namespace LineMap
variable {α β : Type}

def splitAt (m : LineMap α) (k : Nat) : LineMap α × LineMap α :=
  (m.filter fun i _ => decide (i < k), m.filter fun i _ => decide (k ≤ i))

/-- The lines of `moved` go in between, each to the place that `f` finds for it. -/
def refill (kept moved : LineMap α) (f : Nat → Option Nat) : Option (LineMap α) := do
  let entries ← moved.toList.mapM fun (i, a) => return (← f i, a)
  return kept.insertMany entries

def openAt (m : LineMap α) (bound k : Nat) : Option (LineMap α) :=
  let (kept, moved) := m.splitAt k
  kept.refill moved fun i => wordSum bound i 1

def closeAt (m : LineMap α) (k : Nat) : Option (LineMap α × Option α) :=
  let (kept, moved) := m.splitAt k
  (kept.refill (moved.erase k) fun i => wordDifference i 1).map fun rest => (rest, moved[k]?)

def mapInWords (m : LineMap α) (f : α → Option β) : Option (LineMap β) := do
  let entries ← m.toList.mapM fun (i, a) => return (i, ← f a)
  return .ofList entries

end LineMap

structure RowStore where
  rows : LineMap (LineMap Cell) := ∅

namespace RowStore

def cell? (s : RowStore) (p : Position) : Option Cell := s.rows[p.row]?.bind fun row => row[p.column]?

def row (s : RowStore) (i : Nat) : LineMap Cell := s.rows[i]?.getD ∅

def put (s : RowStore) (p : Position) (c : Cell) : RowStore where
  rows := s.rows.insert p.row ((s.row p.row).insert p.column c)

def remove (s : RowStore) (p : Position) : RowStore :=
  match s.rows[p.row]? with
  | none => s
  | some row =>
    let rest := row.erase p.column
    { rows := if rest.isEmpty then s.rows.erase p.row else s.rows.insert p.row rest }

def update (s : RowStore) (p : Position) (f : Cell → Cell) : RowStore :=
  match s.cell? p with
  | none => s
  | some c => s.put p (f c)

def updateAll (s : RowStore) (f : Position → Cell → Cell) : RowStore where
  rows := s.rows.map fun i row => row.map fun j c => f ⟨i, j⟩ c

def toList (s : RowStore) : List (Position × Cell) :=
  s.rows.toList.flatMap fun (i, row) => row.toList.map fun (j, c) => (⟨i, j⟩, c)

def isEmpty (s : RowStore) : Bool := s.rows.isEmpty

def size (s : RowStore) : Nat := s.rows.foldl (fun total _ row => total + row.size) 0

def bounds (s : RowStore) : Option Bounds := do
  let minRow ← s.rows.minKey?
  let maxRow ← s.rows.maxKey?
  let rows := s.rows.toList.map (·.2)
  let minColumn := (rows.filterMap fun row => row.minKey?).foldl min (columnWordBound - 1)
  let maxColumn := (rows.filterMap fun row => row.maxKey?).foldl max 0
  return { minRow, minColumn, maxRow, maxColumn }

def insertLine (s : RowStore) (axis : Axis) (k : Nat) : Option RowStore :=
  match axis with
  | .row => (s.rows.openAt rowWordBound k).map RowStore.mk
  | .column => (s.rows.mapInWords fun row => row.openAt columnWordBound k).map RowStore.mk

def prune (s : RowStore) : RowStore where
  rows := s.rows.filter fun _ row => !row.isEmpty

def takenOut (closed : LineMap (LineMap Cell × Option Cell)) : List (Nat × Cell) :=
  closed.toList.filterMap fun (i, row) => row.2.map fun c => (i, c)

def deleteLine (s : RowStore) (axis : Axis) (k : Nat) : Option (RowStore × List (Nat × Cell)) :=
  match axis with
  | .row => (s.rows.closeAt k).map fun (rows, removed) => (⟨rows⟩, removed.elim [] (·.toList))
  | .column =>
    (s.rows.mapInWords fun row => row.closeAt k).map fun closed =>
      (prune ⟨closed.map fun _ row => row.1⟩, takenOut closed)

def editLine (s : RowStore) : LineEdit → Option RowStore
  | .insert axis k => s.insertLine axis k
  | .delete axis k => (s.deleteLine axis k).map (·.1)

end RowStore

end Spreadsheet
