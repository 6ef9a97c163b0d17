import Spreadsheet.Formula.Move
import Spreadsheet.Grid.InWords

namespace Spreadsheet.Expr

mutual

def moveInWords (edit : LineEdit) : Expr → Option Expr
  | cell ref => (edit.moveRefInWords ref).map fun moved =>
    (moved.map cell).getD (error .brokenReference)
  | range r => (edit.moveRangeInWords r).map fun moved =>
    (moved.map range).getD (error .brokenReference)
  | binary op left right => do return binary op (← moveInWords edit left) (← moveInWords edit right)
  | negate e => (moveInWords edit e).map negate
  | call function args => (moveArgsInWords edit args).map (call function)
  | e => some e

def moveArgsInWords (edit : LineEdit) : List Expr → Option (List Expr)
  | [] => some []
  | e :: rest => do return (← moveInWords edit e) :: (← moveArgsInWords edit rest)

end

/-- All references are moved before it is known whether one of them went elsewhere. -/
def moved?InWords (edit : LineEdit) (e : Expr) : Option (Option Expr) :=
  (moveInWords edit e).map fun moved => if movedBy edit e then some moved else none

def precedentsInWords (limits : Limits) (e : Expr) : Option PositionSet := do
  let lists ← e.references.mapM fun r => do
    match ← r.clampedInWords limits with
    | none => return []
    | some clamped => clamped.positionsInWords
  return .ofList lists.flatten

def countInWords (limits : Limits) (e : Expr) : Option Unit :=
  e.references.forM fun r => do
    if let some clamped ← r.clampedInWords limits then
      let _ ← clamped.rowCountInWords
      let _ ← clamped.columnCountInWords

end Spreadsheet.Expr
