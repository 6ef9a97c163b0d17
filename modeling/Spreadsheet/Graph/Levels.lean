import Spreadsheet.Graph.Basic

namespace Spreadsheet.Graph

def isReady (g : Graph) (left : PositionSet) (p : Position) : Bool :=
  (g.precedents.of p).toList.all fun q => !left.contains q

theorem size_filter_not_lt {f : Position → Bool} {set : PositionSet}
    (h : ¬ (set.filter f).isEmpty) : (set.filter fun p => !f p).size < set.size := by
  refine Nat.lt_of_le_of_ne Std.ExtTreeSet.size_filter_le_size fun eq => h ?_
  rw [Std.ExtTreeSet.size_filter_eq_size_iff] at eq
  rw [Std.ExtTreeSet.isEmpty_iff, Std.ExtTreeSet.filter_eq_empty_iff]
  intro p hp
  simpa using eq p hp

def levels (g : Graph) (left : PositionSet) : List (List Position) :=
  if h : (left.filter (g.isReady left)).isEmpty then
    if left.isEmpty then [] else [left.toList]
  else
    have := size_filter_not_lt h
    (left.filter (g.isReady left)).toList :: levels g (left.filter fun p => !g.isReady left p)
termination_by left.size

def topologicalOrder (g : Graph) (cells : PositionSet) : List Position := (g.levels cells).flatten

end Spreadsheet.Graph
