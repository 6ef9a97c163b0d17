import Spreadsheet.Grid.LineEdit
import Spreadsheet.Text.Quoted

namespace Spreadsheet

inductive GridError
  | badAddress (fault : AddressFault)
  | badRange (text : String) (fault : AddressFault)
  | rowOutOfRange (index max : Nat)
  | columnOutOfRange (index max : Nat)
  | matrixNotFound (name : String)
  | badMatrixName (name : String)
  | duplicateMatrix (name : String)
  | snapshotDuplicate (name : String)
  | snapshotMatrix (name : String) (cause : GridError)
  | uncovered (rows columns row column : Nat)

namespace GridError

def ofRangeFault : RangeFault → GridError
  | .cell fault => .badAddress fault
  | .corner text fault => .badRange text fault

def message : GridError → String
  | badAddress fault => "Invalid cell address: " ++ fault.message
  | badRange text fault =>
    "Invalid cell range: " ++ text ++ ": Invalid cell address: " ++ fault.message
  | rowOutOfRange index max =>
    "Row index " ++ toString index ++ " out of range (max rows: " ++ toString max ++ ")"
  | columnOutOfRange index max =>
    "Column index " ++ toString index ++ " out of range (max columns: " ++ toString max ++ ")"
  | matrixNotFound name => "Matrix not found: " ++ name
  | badMatrixName name => "Invalid matrix name: " ++ Text.quoted name
  | duplicateMatrix name => "Matrix name already exists: " ++ name
  | snapshotDuplicate name => "Invalid snapshot: duplicate matrix name " ++ Text.quoted name
  | snapshotMatrix name cause =>
    "Invalid snapshot: matrix " ++ Text.quoted name ++ ": " ++ cause.message
  | uncovered rows columns row column =>
    "dimensions " ++ toString rows ++ "x" ++ toString columns ++ " do not cover cell at row " ++
      toString row ++ ", column " ++ toString column

end GridError

namespace Limits

def along (limits : Limits) : Axis → Nat
  | .row => limits.rows
  | .column => limits.columns

def outOfRange (limits : Limits) (axis : Axis) (i : Nat) : GridError :=
  match axis with
  | .row => .rowOutOfRange i limits.rows
  | .column => .columnOutOfRange i limits.columns

def checkLine (limits : Limits) (axis : Axis) (i : Nat) : Except GridError Unit :=
  if limits.along axis ≤ i then .error (limits.outOfRange axis i) else .ok ()

def check (limits : Limits) (p : Position) : Except GridError Unit :=
  (limits.checkLine .row p.row).bind fun _ => limits.checkLine .column p.column

end Limits

end Spreadsheet
