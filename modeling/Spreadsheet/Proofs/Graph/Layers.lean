import Mathlib.Order.WellFounded
import Spreadsheet.Proofs.Graph.Reachability

namespace Spreadsheet.Graph

structure Ordered (g : Graph) (cells : PositionSet) (order : List Position) : Prop where
  nodup : order.Nodup
  mem_iff : ∀ p, p ∈ order ↔ p ∈ cells
  precedents_first : ∀ (front back : List Position) (p : Position), order = front ++ p :: back →
    ∀ q ∈ cells, g.Edge q p → q ∈ front

variable {g : Graph} {cells left : PositionSet}

theorem isReady_iff {p : Position} : g.isReady left p = true ↔ ∀ q ∈ left, ¬ g.Edge q p := by
  unfold isReady Edge
  rw [List.all_eq_true]
  constructor
  · intro ready q mem edge
    have absent := ready q (Std.ExtTreeSet.mem_toList.2 edge)
    rw [Bool.not_eq_true', PositionSet.contains_eq_false_iff] at absent
    exact absent mem
  · intro none q listed
    rw [Bool.not_eq_true', PositionSet.contains_eq_false_iff]
    exact fun mem => none q mem (Std.ExtTreeSet.mem_toList.1 listed)

theorem Acyclic.exists_ready (h : g.Acyclic) {p : Position} (mem : p ∈ left) :
    ∃ q, q ∈ left.filter (g.isReady left) := by
  obtain ⟨q, among, first⟩ := h.wellFounded.has_min {q | q ∈ left} ⟨p, mem⟩
  exact ⟨q, (PositionSet.mem_filter_iff _ _ _).2 ⟨among, isReady_iff.2 first⟩⟩

theorem Acyclic.pairwise_topologicalOrder (h : g.Acyclic) (cells : PositionSet) :
    (g.topologicalOrder cells).Pairwise fun earlier later =>
      earlier ≠ later ∧ ¬ g.Edge later earlier := by
  unfold topologicalOrder
  fun_induction levels g cells with
  | case1 left none empty => exact .nil
  | case2 left none some =>
      -- Without a cycle there would be a ready cell.
      refine absurd ((PositionSet.isEmpty_iff left).2 fun p mem => ?_) some
      obtain ⟨q, ready⟩ := h.exists_ready mem
      exact (PositionSet.isEmpty_iff _).1 none q ready
  | case3 left some less ih =>
      have inRest : ∀ q ∈ (g.levels (left.filter fun p => !g.isReady left p)).flatten,
          q ∈ left ∧ g.isReady left q = false := by
        intro q mem
        have rest := (mem_topologicalOrder g _ q).1 mem
        rwa [PositionSet.mem_filter_iff, Bool.not_eq_true'] at rest
      have inFront : ∀ p ∈ (left.filter (g.isReady left)).toList,
          p ∈ left ∧ g.isReady left p = true := fun p mem =>
        (PositionSet.mem_filter_iff _ _ _).1 (Std.ExtTreeSet.mem_toList.1 mem)
      rw [List.flatten_cons, List.pairwise_append]
      refine ⟨?_, ih, fun p front q rest => ?_⟩
      · exact (PositionSet.nodup_toList _).imp_of_mem fun {p q} first second apart =>
          ⟨apart, isReady_iff.1 (inFront p first).2 q (inFront q second).1⟩
      · refine ⟨?_, isReady_iff.1 (inFront p front).2 q (inRest q rest).1⟩
        rintro rfl
        have ready := (inFront p front).2
        rw [(inRest p rest).2] at ready
        cases ready

theorem Acyclic.ordered (h : g.Acyclic) (cells : PositionSet) :
    g.Ordered cells (g.topologicalOrder cells) := by
  have pairs := h.pairwise_topologicalOrder cells
  refine ⟨pairs.imp fun both => both.1, mem_topologicalOrder g cells, ?_⟩
  intro front back p split q mem edge
  have listed := (mem_topologicalOrder g cells q).2 mem
  rw [split, List.mem_append, List.mem_cons] at listed
  rw [split, List.pairwise_append, List.pairwise_cons] at pairs
  rcases listed with before | rfl | behind
  · exact before
  · exact absurd (.single edge) (h q)
  · exact absurd edge (pairs.2.1.1 q behind).2

theorem Ordered.perm {order : List Position} (h : g.Ordered cells order) :
    order.Perm cells.toList := by
  rw [List.perm_ext_iff_of_nodup h.nodup (PositionSet.nodup_toList cells)]
  intro p
  rw [h.mem_iff, Std.ExtTreeSet.mem_toList]

theorem Ordered.length_eq {order : List Position} (h : g.Ordered cells order) :
    order.length = cells.size := by
  rw [h.perm.length_eq, Std.ExtTreeSet.length_toList]

end Spreadsheet.Graph
