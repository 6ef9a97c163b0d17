import Spreadsheet.Graph.Levels
import Spreadsheet.Sheet.Wiring

namespace Spreadsheet

structure RecalcStats where
  evaluated : Nat := 0
  errors : Nat := 0
  cancelled : Bool := false
  remaining : Nat := 0
deriving DecidableEq

def RecalcStats.merge (a b : RecalcStats) : RecalcStats where
  evaluated := a.evaluated + b.evaluated
  errors := a.errors + b.errors
  cancelled := a.cancelled || b.cancelled
  remaining := a.remaining + b.remaining

namespace Sheet

def markDirty (s : Sheet) (p : Position) : Sheet := { s with matrix := s.matrix.markDirty p }

def evaluateAt (state : Sheet × RecalcStats) (p : Position) : Option (Sheet × RecalcStats) :=
  let (s, stats) := state
  match s.formulas[p]? with
  | none => some state
  | some e => (evaluateCell s.resolver p e).map fun value =>
    ({ s with matrix := s.matrix.setValue p value },
      { stats with
        evaluated := stats.evaluated + 1
        errors := stats.errors + value.isError.toNat })

def recalcCells (s : Sheet) (dirty : PositionSet) (cancelled : Bool) : Option (Sheet × RecalcStats) :=
  if dirty.isEmpty then some (s, {})
  else
    let s := dirty.toList.foldl markDirty s
    if cancelled then some (s, { cancelled, remaining := dirty.size })
    else do
      let (s, stats) ← (s.graph.topologicalOrder dirty).foldlM evaluateAt (s, {})
      return (s, { stats with remaining := dirty.size - stats.evaluated })

/-- The accepted formulas among the roots and all cells that depend on a root. -/
def staleFrom (s : Sheet) (roots : List Position) : PositionSet :=
  (s.graph.transitiveDependents roots).insertMany (roots.filter s.formulas.contains)

def recalcFrom (s : Sheet) (roots : List Position) (cancelled : Bool) : Option (Sheet × RecalcStats) :=
  s.recalcCells (s.staleFrom roots) cancelled

def recalcAll (s : Sheet) (cancelled : Bool) : Option (Sheet × RecalcStats) :=
  s.recalcCells (.ofList s.formulas.keys) cancelled

end Sheet

end Spreadsheet
