import Spreadsheet.Graph.Reach

namespace Spreadsheet

/-- Whether the waiting positions lead to a wanted one in one step or more. Each position joins those
waiting at most once, when it is first seen. -/
def Neighbours.leadTo (n : Neighbours) (wanted seen : PositionSet) (waiting : List Position) : Bool :=
  match waiting with
  | [] => false
  | p :: rest =>
    if (n.of p).toList.any wanted.contains then true
    else
      match h : n.fresh seen p with
      | [] => n.leadTo wanted seen rest
      | q :: qs =>
        have := unseen_lt h
        n.leadTo wanted (seen.insertMany (q :: qs)) (rest ++ q :: qs)
termination_by (n.unseen seen, waiting.length)

def Graph.closesCycle (g : Graph) (p : Position) (precedents : PositionSet) : Bool :=
  if precedents.contains p then true
  else if precedents.isEmpty then false
  else g.dependents.leadTo precedents {p} [p]

end Spreadsheet
