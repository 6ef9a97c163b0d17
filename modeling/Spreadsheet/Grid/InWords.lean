import Spreadsheet.Grid.LineEdit

/-!
# Grids in machine words

Row numbers are words of 32 bits and column numbers words of 16 bits, and a sum or a difference that
is no such word ends the work: `none` stands for that. Where references move, the numbers of both axes
are words of 32 bits.
-/

namespace Spreadsheet

def wordSum (bound a b : Nat) : Option Nat := if a + b < bound then some (a + b) else none

def wordDifference (a b : Nat) : Option Nat := if b ≤ a then some (a - b) else none

def Axis.wordBound : Axis → Nat
  | row => rowWordBound
  | column => columnWordBound

namespace LineEdit

/-- Both kinds of text start from the next number: the letters of a column are counted from 1. -/
def describeInWords (edit : LineEdit) : Option String :=
  (wordSum rowWordBound edit.index 1).map fun _ => edit.describe

def moveIndexInWords : LineEdit → Nat → Option (Option Nat)
  | insert axis k, i =>
    if k ≤ i then (wordSum rowWordBound i 1).map (landing axis) else some (some i)
  | delete axis k, i =>
    if i = k then some none
    else if k < i then (wordDifference i 1).map (landing axis) else some (some i)

def movePositionInWords (edit : LineEdit) (p : Position) : Option (Option Position) :=
  (edit.moveIndexInWords (p.along edit.axis)).map (Option.map (p.withAlong edit.axis))

def moveRefInWords (edit : LineEdit) (ref : CellRef) : Option (Option CellRef) :=
  (edit.movePositionInWords ref.toPosition).map (Option.map ref.movedTo)

/-- Two ends of a span; the last one is only looked at where the first one has somewhere to go. -/
def bothInWords (first last : Option (Option Nat)) : Option (Option (Nat × Nat)) := do
  match ← first with
  | none => return none
  | some a => return (← last).map fun b => (a, b)

def moveSpanInWords (edit : LineEdit) (first last : Nat) : Option (Option (Nat × Nat)) :=
  match edit with
  | insert .. => bothInWords (edit.moveIndexInWords first) (edit.moveIndexInWords last)
  | delete axis k =>
    if first = k ∧ last = k then some none
    else
      bothInWords
        (if k < first then (wordDifference first 1).map (landing axis) else some (some first))
        (if k ≤ last then (wordDifference last 1).map (landing axis) else some (some last))

def moveRangeInWords (edit : LineEdit) (r : CellRange) : Option (Option CellRange) :=
  (edit.moveSpanInWords (r.first.along edit.axis) (r.last.along edit.axis)).map
    (Option.map fun (a, b) =>
      CellRange.between (r.first.movedTo (r.first.withAlong edit.axis a))
        (r.last.movedTo (r.last.withAlong edit.axis b)))

end LineEdit

namespace CellRange

def rowCountInWords (r : CellRange) : Option Nat :=
  (wordDifference r.last.row r.first.row).bind fun n => wordSum rowWordBound n 1

def columnCountInWords (r : CellRange) : Option Nat :=
  (wordDifference r.last.column r.first.column).bind fun n => wordSum columnWordBound n 1

def cellCountInWords (r : CellRange) : Option Nat := do
  return (← r.rowCountInWords) * (← r.columnCountInWords)

/-- The limits are only lowered by one where the range begins below them. -/
def clampedInWords (r : CellRange) (limits : Limits) : Option (Option CellRange) :=
  if r.first.row < limits.rows ∧ r.first.column < limits.columns then do
    let _ ← wordDifference limits.rows 1
    let _ ← wordDifference limits.columns 1
    return r.clamped limits
  else some none

/-- A row number behind the last one saturates, so only the step to the right can go wrong. -/
def stepInWords (r : CellRange) (c : Cursor) : Option (Option (Position × Cursor)) :=
  if c.left = 0 ∨ c.next.column = r.last.column then some (r.step? c)
  else (wordSum columnWordBound c.next.column 1).map fun _ => r.step? c

def Cursor.Fits (c : Cursor) : Prop :=
  (c.next.row < rowWordBound ∧ c.next.column < columnWordBound) ∧ c.left < UInt64.size

def Cursor.sizeHint (c : Cursor) : Nat × Option Nat :=
  let length := c.left % UInt64.size
  (length, some length)

def walkInWords (r : CellRange) : Nat → Cursor → Option (List Position)
  | 0, _ => some []
  | n + 1, c => do
    match ← r.stepInWords c with
    | none => return []
    | some (p, c) => (r.walkInWords n c).map (p :: ·)

def positionsInWords (r : CellRange) : Option (List Position) := do
  let count ← r.cellCountInWords
  r.walkInWords count ⟨r.first.toPosition, count⟩

end CellRange

end Spreadsheet
