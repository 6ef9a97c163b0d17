import Spreadsheet.Grid.Position

namespace Spreadsheet

structure Limits where
  rows : Nat := 5000
  columns : Nat := 500
deriving DecidableEq, Inhabited

def Limits.Contains (limits : Limits) (p : Position) : Prop :=
  p.row < limits.rows ∧ p.column < limits.columns

instance (limits : Limits) (p : Position) : Decidable (limits.Contains p) :=
  inferInstanceAs (Decidable (_ ∧ _))

end Spreadsheet
