import Spreadsheet.Grid.Range

namespace Spreadsheet

inductive Axis
  | row
  | column
deriving DecidableEq

def Axis.bound : Axis → Nat
  | row => maxRows
  | column => maxColumns

def Position.along (p : Position) : Axis → Nat
  | .row => p.row
  | .column => p.column

def Position.withAlong (p : Position) (axis : Axis) (i : Nat) : Position :=
  match axis with
  | .row => { p with row := i }
  | .column => { p with column := i }

inductive LineEdit
  | insert (axis : Axis) (index : Nat)
  | delete (axis : Axis) (index : Nat)
deriving DecidableEq

namespace LineEdit

def axis : LineEdit → Axis
  | insert axis _ => axis
  | delete axis _ => axis

def index : LineEdit → Nat
  | insert _ index => index
  | delete _ index => index

def isInsert : LineEdit → Bool
  | insert .. => true
  | delete .. => false

def ordinal (edit : LineEdit) : Nat := edit.index + 1

def describe (edit : LineEdit) : String :=
  let verb := if edit.isInsert then "insert" else "delete"
  match edit.axis with
  | .row => verb ++ " row " ++ toString edit.ordinal
  | .column => verb ++ " column " ++ String.ofList (columnLetters edit.index)

def landing (axis : Axis) (i : Nat) : Option Nat := if i < axis.bound then some i else none

def moveIndex : LineEdit → Nat → Option Nat
  | insert axis k, i => if k ≤ i then landing axis (i + 1) else some i
  | delete axis k, i => if i = k then none else if k < i then landing axis (i - 1) else some i

def movePosition (edit : LineEdit) (p : Position) : Option Position :=
  (edit.moveIndex (p.along edit.axis)).map (p.withAlong edit.axis)

def moveRef (edit : LineEdit) (ref : CellRef) : Option CellRef :=
  (edit.movePosition ref.toPosition).map ref.movedTo

/-- The lines of a range along the axis of the edit, from `first` to `last`, after the edit. A
deletion on the edge or inside takes one line away; none are left when it was the only one. -/
def moveSpan (edit : LineEdit) (first last : Nat) : Option (Nat × Nat) :=
  match edit with
  | insert .. => (edit.moveIndex first).bind fun a => (edit.moveIndex last).map fun b => (a, b)
  | delete axis k =>
    if first = k ∧ last = k then none
    else
      (if k < first then landing axis (first - 1) else some first).bind fun a =>
        (if k ≤ last then landing axis (last - 1) else some last).map fun b => (a, b)

def moveRange (edit : LineEdit) (r : CellRange) : Option CellRange :=
  (edit.moveSpan (r.first.along edit.axis) (r.last.along edit.axis)).map fun (a, b) =>
    CellRange.between (r.first.movedTo (r.first.withAlong edit.axis a))
      (r.last.movedTo (r.last.withAlong edit.axis b))

end LineEdit

end Spreadsheet
