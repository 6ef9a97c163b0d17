import Spreadsheet.Data.ListCount
import Spreadsheet.Graph.Basic

namespace Spreadsheet

namespace Neighbours

def fresh (n : Neighbours) (seen : PositionSet) (p : Position) : List Position :=
  (n.of p).toList.filter fun q => !seen.contains q

def unseen (n : Neighbours) (seen : PositionSet) : Nat :=
  ((n.toList.flatMap fun (_, set) => set.toList).filter fun q => !seen.contains q).length

theorem unseen_insertMany_lt {n : Neighbours} {seen : PositionSet} {p q : Position}
    {new : List Position} (step : q ∈ n.of p) (unmet : seen.contains q = false) (mem : q ∈ new) :
    n.unseen (seen.insertMany new) < n.unseen seen := by
  refine length_filter_lt (a := q) ?_ ?_ ?_ ?_
  · intro x
    simp only [Std.ExtTreeSet.contains_insertMany_list, Bool.not_eq_eq_eq_not, Bool.not_true,
      Bool.or_eq_false_iff]
    exact fun hx => hx.1
  · unfold of at step
    cases hn : n[p]? with
    | none => simp [hn] at step
    | some set =>
      rw [hn, Option.getD_some] at step
      refine List.mem_flatMap.2 ⟨(p, set), ?_, Std.ExtTreeSet.mem_toList.2 step⟩
      exact Std.ExtTreeMap.mem_toList_iff_getElem?_eq_some.2 hn
  · rw [unmet]
    rfl
  · simp [Std.ExtTreeSet.contains_insertMany_list, mem]

theorem unseen_lt {n : Neighbours} {seen : PositionSet} {p q : Position} {rest : List Position}
    (h : n.fresh seen p = q :: rest) : n.unseen (seen.insertMany (q :: rest)) < n.unseen seen := by
  have mem : q ∈ n.fresh seen p := by rw [h]; exact List.mem_cons_self
  simp only [fresh, List.mem_filter, Std.ExtTreeSet.mem_toList] at mem
  exact unseen_insertMany_lt mem.1 (by simpa only [Bool.not_eq_true'] using mem.2) List.mem_cons_self

def spread (n : Neighbours) (seen : PositionSet) (work : List Position) : PositionSet :=
  match work with
  | [] => seen
  | p :: rest =>
    match h : n.fresh seen p with
    | [] => spread n seen rest
    | q :: qs =>
      have := unseen_lt h
      spread n (seen.insertMany (q :: qs)) (q :: qs ++ rest)
termination_by (n.unseen seen, work.length)

def reach (n : Neighbours) (starts : List Position) : PositionSet := n.spread ∅ starts

end Neighbours

namespace Graph

def transitiveDependents (g : Graph) (roots : List Position) : PositionSet :=
  g.dependents.reach roots

def wouldCreateCycle (g : Graph) (p : Position) (precedents : PositionSet) : Bool :=
  precedents.contains p ||
    (!precedents.isEmpty && (g.transitiveDependents [p]).toList.any precedents.contains)

def hasCircularReference (g : Graph) (p : Position) : Bool := (g.precedents.reach [p]).contains p

end Graph

end Spreadsheet
