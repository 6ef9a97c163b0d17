import Spreadsheet.Formula.Expr
import Spreadsheet.Grid.LineEdit

namespace Spreadsheet.Expr

mutual

def move (edit : LineEdit) : Expr → Expr
  | cell ref => ((edit.moveRef ref).map cell).getD (error .brokenReference)
  | range r => ((edit.moveRange r).map range).getD (error .brokenReference)
  | binary op left right => binary op (move edit left) (move edit right)
  | negate e => negate (move edit e)
  | call function args => call function (moveArgs edit args)
  | e => e

def moveArgs (edit : LineEdit) : List Expr → List Expr
  | [] => []
  | e :: rest => move edit e :: moveArgs edit rest

end

mutual

def movedBy (edit : LineEdit) : Expr → Bool
  | cell ref => edit.moveRef ref != some ref
  | range r => edit.moveRange r != some r
  | binary _ left right => movedBy edit left || movedBy edit right
  | negate e => movedBy edit e
  | call _ args => anyMovedBy edit args
  | _ => false

def anyMovedBy (edit : LineEdit) : List Expr → Bool
  | [] => false
  | e :: rest => movedBy edit e || anyMovedBy edit rest

end

def moved? (edit : LineEdit) (e : Expr) : Option Expr :=
  if movedBy edit e then some (move edit e) else none

def precedents (limits : Limits) (e : Expr) : PositionSet :=
  .ofList (e.references.flatMap fun r => (r.clamped limits).elim [] CellRange.positions)

end Spreadsheet.Expr
