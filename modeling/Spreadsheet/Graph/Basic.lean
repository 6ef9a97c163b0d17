import Spreadsheet.Grid.Position

namespace Spreadsheet

abbrev Neighbours := PositionMap PositionSet

namespace Neighbours

def of (n : Neighbours) (p : Position) : PositionSet := n[p]?.getD ∅

def link (n : Neighbours) (p q : Position) : Neighbours := n.insert p ((n.of p).insert q)

def unlink (n : Neighbours) (p q : Position) : Neighbours :=
  match n[p]? with
  | none => n
  | some set =>
    let left := set.erase q
    if left.isEmpty then n.erase p else n.insert p left

def count (n : Neighbours) : Nat := n.foldl (fun total _ set => total + set.size) 0

/-- Each entry has members, and each pair stands in `back` the other way round. -/
def reversedIn (n back : Neighbours) : Bool :=
  n.toList.all fun (p, set) =>
    !set.isEmpty && set.toList.all fun q => (back.of q).contains p

end Neighbours

structure Graph where
  precedents : Neighbours := ∅
  dependents : Neighbours := ∅

namespace Graph

def empty : Graph := {}

/-- The formula at `dependent` refers to `precedent`. -/
def Edge (g : Graph) (precedent dependent : Position) : Prop :=
  precedent ∈ g.precedents.of dependent

def link (g : Graph) (precedent dependent : Position) : Graph where
  precedents := g.precedents.link dependent precedent
  dependents := g.dependents.link precedent dependent

def removePrecedents (g : Graph) (p : Position) : Graph where
  precedents := g.precedents.erase p
  dependents := (g.precedents.of p).toList.foldl (fun n q => n.unlink q p) g.dependents

def setPrecedents (g : Graph) (p : Position) (precedents : PositionSet) : Graph :=
  precedents.toList.foldl (fun g q => g.link q p) (g.removePrecedents p)

def isConsistent (g : Graph) : Bool :=
  g.precedents.reversedIn g.dependents && g.dependents.reversedIn g.precedents

def edgeCount (g : Graph) : Nat := g.precedents.count

def isEmpty (g : Graph) : Bool := g.precedents.isEmpty

end Graph

end Spreadsheet
