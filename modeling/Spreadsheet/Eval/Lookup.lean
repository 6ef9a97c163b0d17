import Spreadsheet.Eval.Compare
import Spreadsheet.Number.Binary64

namespace Spreadsheet.Lookup

inductive MatchMode
  | exact
  | nextSmaller
  | nextLarger
deriving DecidableEq

def sameKind : CellValue → CellValue → Bool
  | .empty, .empty => true
  | .number _, .number _ => true
  | .text _, .text _ => true
  | .boolean _, .boolean _ => true
  | .error _, .error _ => true
  | _, _ => false

def qualifies (mode : MatchMode) (key candidate : CellValue) : Bool :=
  match mode with
  | .exact => candidate.compare key == .eq
  | .nextSmaller => candidate.compare key != .gt
  | .nextLarger => candidate.compare key != .lt

def improves (mode : MatchMode) (candidate best : CellValue) : Bool :=
  match mode with
  | .exact => false
  | .nextSmaller => candidate.compare best != .lt
  | .nextLarger => candidate.compare best != .gt

def search (mode : MatchMode) (key : CellValue) (i : Nat) (best : Option (Nat × CellValue)) :
    List CellValue → Option Nat
  | [] => best.map (·.1)
  | c :: rest =>
    if sameKind c key && qualifies mode key c && best.all (fun b => improves mode c b.2) then
      if mode = .exact then some i else search mode key (i + 1) (some (i, c)) rest
    else search mode key (i + 1) best rest

def findPosition (key : CellValue) (candidates : List CellValue) (mode : MatchMode) : Option Nat :=
  search mode key 0 none candidates

def columnCount (rows : List (List CellValue)) : Nat := (rows.head?.map List.length).getD 0

def positiveIndex (v : FormulaValue) : Answer Nat := do
  let x ← v.toNumber
  if Binary64.trunc x < 1 then .error .wrongType else .ok (Binary64.truncate x).toNat

def cellAt (rows : List (List CellValue)) (row column : Nat) : Option CellValue :=
  if row = 0 ∨ column = 0 then none else rows[row - 1]?.bind fun cells => cells[column - 1]?

def tableMode : Option FormulaValue → Answer MatchMode
  | none => .ok .exact
  | some v => v.toBoolean.map fun b => if b then .nextSmaller else .exact

/-- Where a table lookup finds its result: the position of the key and the index across. The key is
one scalar, and the index is within `width`. -/
def locate (key : FormulaValue) (keys : List CellValue) (width : Nat) (index : FormulaValue)
    (mode : Option FormulaValue) : Answer (Nat × Nat) :=
  match key with
  | .table _ => .error .wrongType
  | .scalar k => do
    let index ← positiveIndex index
    let mode ← tableMode mode
    if width < index then .error .brokenReference
    else
      match findPosition k keys mode with
      | some pos => .ok (pos + 1, index)
      | none => .error .notAvailable

def answerAt {α : Type} (place : Answer α) (cell : α → Option CellValue) : Option FormulaValue :=
  match place with
  | .ok spot => (cell spot).map .scalar
  | .error code => some (.error code)

def vertical (key table index : FormulaValue) (mode : Option FormulaValue) : Option FormulaValue :=
  let rows := table.grid
  answerAt (locate key (rows.map fun cells => cells.headD .empty) (columnCount rows) index mode)
    fun (row, column) => cellAt rows row column

def horizontal (key table index : FormulaValue) (mode : Option FormulaValue) :
    Option FormulaValue :=
  let rows := table.grid
  answerAt (locate key (rows.headD []) rows.length index mode)
    fun (column, row) => cellAt rows row column

/-- The place that one or two indices name. One alone counts along a single row or column. -/
def indexPlace (rows : List (List CellValue)) (first : FormulaValue)
    (second : Option FormulaValue) : Answer (Nat × Nat) := do
  let first ← positiveIndex first
  match second with
  | some column => return (first, ← positiveIndex column)
  | none =>
    if rows.length = 1 then .ok (1, first)
    else if columnCount rows = 1 then .ok (first, 1)
    else .error .brokenReference

/-- The cell of a table at an index; beyond its edge the reference is broken. An index of 0 is no
place at all. -/
def index (table first : FormulaValue) (second : Option FormulaValue) : Option FormulaValue :=
  let rows := table.grid
  answerAt (indexPlace rows first second) fun (row, column) =>
    if row = 0 ∨ column = 0 then none
    else some ((cellAt rows row column).getD (.error .brokenReference))

def matchMode : Option FormulaValue → Answer MatchMode
  | none => .ok .nextSmaller
  | some v => v.toNumber.map fun x =>
    if 0 < x then .nextSmaller else if x < 0 then .nextLarger else .exact

def matchPosition (key table : FormulaValue) (mode : Option FormulaValue) : Answer Nat :=
  match key with
  | .table _ => .error .wrongType
  | .scalar k => do
    let rows := table.grid
    if rows.length ≠ 1 ∧ columnCount rows ≠ 1 then .error .notAvailable
    else
      let mode ← matchMode mode
      match findPosition k rows.flatten mode with
      | some pos => .ok (pos + 1)
      | none => .error .notAvailable

end Spreadsheet.Lookup
