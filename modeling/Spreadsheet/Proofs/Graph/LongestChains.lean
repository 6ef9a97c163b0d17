import Mathlib.Data.Fintype.Card
import Mathlib.Data.Set.Finite.Basic
import Spreadsheet.Proofs.Graph.Countdown

/-!
# Layers and longest chains

Before layer `n` those cells are left that a chain of `n` edges ends at, so the layer itself takes the
cells whose longest chain has `n` edges. If nothing is ready, every cell left has a precedent that is
left, and a finite set of such cells is what stands on a cycle or downstream of one.
-/

namespace Spreadsheet.Graph
open Relation (TransGen ReflTransGen)

def EdgeIn (g : Graph) (cells : PositionSet) (p q : Position) : Prop :=
  p ∈ cells ∧ q ∈ cells ∧ g.Edge p q

def AcyclicIn (g : Graph) (cells : PositionSet) : Prop := ∀ p, ¬ TransGen (g.EdgeIn cells) p p

/-- The cell is on a cycle inside the set, or downstream of one. -/
def Trapped (g : Graph) (cells : PositionSet) (p : Position) : Prop :=
  ∃ q, TransGen (g.EdgeIn cells) q q ∧ ReflTransGen (g.EdgeIn cells) q p

inductive ChainTo (g : Graph) (cells : PositionSet) : Nat → Position → Prop
  | start {p : Position} (mem : p ∈ cells) : ChainTo g cells 0 p
  | step {n : Nat} {p q : Position} (chain : ChainTo g cells n p) (edge : g.EdgeIn cells p q) :
      ChainTo g cells (n + 1) q

def LongestChainTo (g : Graph) (cells : PositionSet) (n : Nat) (p : Position) : Prop :=
  g.ChainTo cells n p ∧ ∀ m, g.ChainTo cells m p → m ≤ n

structure Layering (g : Graph) (cells : PositionSet) (layers : List (List Position)) : Prop where
  nodup : layers.flatten.Nodup
  mem_iff : ∀ p, p ∈ layers.flatten ↔ p ∈ cells
  nonempty : ∀ layer ∈ layers, layer ≠ []
  row_major : ∀ layer ∈ layers, layer.Pairwise fun p q => compare p q = .lt
  longest : g.AcyclicIn cells → ∀ n p, p ∈ layers.getD n [] ↔ g.LongestChainTo cells n p
  earlier : g.AcyclicIn cells → ∀ m n p q, p ∈ layers.getD m [] → q ∈ layers.getD n [] →
    g.Edge p q → m < n
  trapped : ¬ g.AcyclicIn cells → ∃ front last, layers = front ++ [last] ∧
    ∀ p, p ∈ last ↔ g.Trapped cells p

variable {g : Graph} {cells left : PositionSet} {n : Nat} {p q : Position}

/-! ## Chains -/

theorem ChainTo.mem (h : g.ChainTo cells n p) : p ∈ cells := by
  cases h with
  | start mem => exact mem
  | step _ edge => exact edge.2.1

theorem ChainTo.drop (h : g.ChainTo cells (n + 1) p) : g.ChainTo cells n p := by
  induction n generalizing p with
  | zero => exact .start h.mem
  | succ n ih =>
      cases h with
      | step chain edge => exact .step (ih chain) edge

theorem ChainTo.drop_to {m : Nat} (h : g.ChainTo cells n p) (le : m ≤ n) : g.ChainTo cells m p := by
  induction le with
  | refl => exact h
  | step _ ih => exact ih h.drop

theorem longestChainTo_iff :
    g.LongestChainTo cells n p ↔ g.ChainTo cells n p ∧ ¬ g.ChainTo cells (n + 1) p := by
  constructor
  · rintro ⟨chain, most⟩
    exact ⟨chain, fun longer => Nat.not_succ_le_self n (most _ longer)⟩
  · rintro ⟨chain, none⟩
    refine ⟨chain, fun m other => Nat.le_of_not_lt fun longer => none (other.drop_to longer)⟩

theorem Trapped.precedent (h : g.Trapped cells p) : ∃ q, g.EdgeIn cells q p ∧ g.Trapped cells q := by
  obtain ⟨c, cycle, path⟩ := h
  rcases path.cases_tail with rfl | ⟨q, front, edge⟩
  · obtain ⟨q, front, edge⟩ := TransGen.tail'_iff.1 cycle
    exact ⟨q, edge, p, cycle, front⟩
  · exact ⟨q, edge, c, cycle, front⟩

theorem Trapped.chainTo (h : g.Trapped cells p) (n : Nat) : g.ChainTo cells n p := by
  induction n generalizing p with
  | zero =>
      obtain ⟨q, edge, _⟩ := h.precedent
      exact .start edge.2.1
  | succ n ih =>
      obtain ⟨q, edge, before⟩ := h.precedent
      exact .step (ih before) edge

theorem Trapped.step (h : g.Trapped cells p) (edge : g.EdgeIn cells p q) : g.Trapped cells q := by
  obtain ⟨c, cycle, path⟩ := h
  exact ⟨c, cycle, path.tail edge⟩

theorem trapped_of_precedents (precedents : ∀ p ∈ left, ∃ q ∈ left, g.EdgeIn cells q p)
    (mem : p ∈ left) : g.Trapped cells p := by
  -- Where every cell has a precedent among the others, none is free of cycles: the first free one
  -- in the order of paths would have a free precedent.
  refine Classical.byContradiction fun free => ?_
  let Free := {q : Position // q ∈ left ∧ ¬ g.Trapped cells q}
  let before : Free → Free → Prop := fun a b => TransGen (g.EdgeIn cells) a.1 b.1
  have : Finite Free :=
    (left.toList.finite_toSet.subset fun q both => Std.ExtTreeSet.mem_toList.2 both.1).to_subtype
  have : IsTrans Free before := ⟨fun _ _ _ => TransGen.trans⟩
  have : Std.Irrefl before := ⟨fun a cycle => a.2.2 ⟨a.1, cycle, .refl⟩⟩
  obtain ⟨first, _, least⟩ := (Finite.wellFounded_of_trans_of_irrefl before).has_min
    Set.univ ⟨⟨p, mem, free⟩, trivial⟩
  obtain ⟨q, among, edge⟩ := precedents first.1 first.2.1
  exact least ⟨q, among, fun trapped => first.2.2 (trapped.step edge)⟩ trivial (.single edge)

/-! ## Layers -/

theorem mem_rest_iff (chains : ∀ p, p ∈ left ↔ g.ChainTo cells n p) (p : Position) :
    p ∈ left.filter (fun p => !g.isReady left p) ↔ g.ChainTo cells (n + 1) p := by
  rw [PositionSet.mem_filter_iff, Bool.not_eq_true', ← Bool.not_eq_true, isReady_iff]
  constructor
  · rintro ⟨mem, behind⟩
    refine Classical.byContradiction fun none => behind fun q among edge => none ?_
    have chain := (chains q).1 among
    exact .step chain ⟨chain.mem, ((chains p).1 mem).mem, edge⟩
  · intro chain
    refine ⟨(chains p).2 chain.drop, fun ready => ?_⟩
    cases chain with
    | step front edge => exact ready _ ((chains _).2 front) edge.2.2

theorem mem_ready_iff (chains : ∀ p, p ∈ left ↔ g.ChainTo cells n p) (p : Position) :
    p ∈ left.filter (g.isReady left) ↔ g.LongestChainTo cells n p := by
  rw [longestChainTo_iff, ← chains p, ← mem_rest_iff chains p, PositionSet.mem_filter_iff,
    PositionSet.mem_filter_iff]
  cases g.isReady left p with
  | true => simp
  | false => simp

theorem trapped_iff_of_stuck (chains : ∀ p, p ∈ left ↔ g.ChainTo cells n p)
    (stuck : (left.filter (g.isReady left)).isEmpty = true) (p : Position) :
    p ∈ left ↔ g.Trapped cells p := by
  refine ⟨fun mem => trapped_of_precedents (fun q among => ?_) mem,
    fun trapped => (chains p).2 (trapped.chainTo n)⟩
  have longer : g.ChainTo cells (n + 1) q := by
    refine Classical.byContradiction fun none => (PositionSet.isEmpty_iff _).1 stuck q ?_
    exact (mem_ready_iff chains q).2 (longestChainTo_iff.2 ⟨(chains q).1 among, none⟩)
  cases longer with
  | step front edge => exact ⟨_, (chains _).2 front, edge⟩

theorem levels_by_chains (chains : ∀ p, p ∈ left ↔ g.ChainTo cells n p) :
    ∃ placed stuck, g.levels left = placed ++ stuck ∧
      (∀ k p, p ∈ placed.getD k [] ↔ g.LongestChainTo cells (n + k) p) ∧
      ((stuck = [] ∧ ∀ p, ¬ g.Trapped cells p) ∨
        ∃ p last, stuck = [last] ∧ p ∈ last ∧ ∀ q, q ∈ last ↔ g.Trapped cells q) := by
  fun_induction levels g left generalizing n with
  | case1 left none empty =>
      have absent := (PositionSet.isEmpty_iff left).1 empty
      refine ⟨[], [], rfl, fun k p => ?_, .inl ⟨rfl, fun p trapped => ?_⟩⟩
      · simp only [List.getD_nil, List.not_mem_nil, false_iff]
        exact fun longest => absent p ((chains p).2 (longest.1.drop_to (Nat.le_add_right n k)))
      · exact absent p ((chains p).2 (trapped.chainTo n))
  | case2 left none some =>
      have trapped := trapped_iff_of_stuck chains none
      obtain ⟨first, mem⟩ : ∃ p, p ∈ left := by
        refine Classical.byContradiction fun absent => some ?_
        exact (PositionSet.isEmpty_iff left).2 fun p mem => absent ⟨p, mem⟩
      refine ⟨[], [left.toList], rfl, fun k p => ?_, .inr ⟨first, left.toList, rfl, ?_, fun q => ?_⟩⟩
      · simp only [List.getD_nil, List.not_mem_nil, false_iff]
        intro longest
        -- What is left is trapped, and no chain to it is the longest.
        have caught := (trapped p).1 ((chains p).2 (longest.1.drop_to (Nat.le_add_right n k)))
        exact (longestChainTo_iff.1 longest).2 (caught.chainTo _)
      · exact Std.ExtTreeSet.mem_toList.2 mem
      · rw [Std.ExtTreeSet.mem_toList, trapped]
  | case3 left some less ih =>
      obtain ⟨placed, stuck, split, longest, last⟩ := ih (mem_rest_iff chains)
      refine ⟨(left.filter (g.isReady left)).toList :: placed, stuck, ?_, fun k p => ?_, last⟩
      · rw [split, List.cons_append]
      · cases k with
        | zero =>
            rw [List.getD_cons_zero, Std.ExtTreeSet.mem_toList, mem_ready_iff chains]
            rfl
        | succ k =>
            rw [List.getD_cons_succ, longest, Nat.add_assoc, Nat.add_comm 1 k]

theorem nodup_topologicalOrder (g : Graph) (cells : PositionSet) :
    (g.topologicalOrder cells).Nodup := by
  unfold topologicalOrder
  fun_induction levels g cells with
  | case1 left none empty => exact .nil
  | case2 left none some =>
      rw [List.flatten_singleton]
      exact PositionSet.nodup_toList left
  | case3 left some less ih =>
      rw [List.flatten_cons, List.nodup_append]
      refine ⟨PositionSet.nodup_toList _, ih, ?_⟩
      rintro p front _ rest rfl
      have ready := ((PositionSet.mem_filter_iff _ _ _).1 (Std.ExtTreeSet.mem_toList.1 front)).2
      have behind := (mem_topologicalOrder g _ p).1 rest
      rw [PositionSet.mem_filter_iff, ready] at behind
      cases behind.2

theorem level_toList (g : Graph) (cells : PositionSet) {layer : List Position}
    (mem : layer ∈ g.levels cells) : ∃ set : PositionSet, ¬ set.isEmpty ∧ layer = set.toList := by
  fun_induction levels g cells with
  | case1 left none empty => cases mem
  | case2 left none some => exact ⟨left, some, List.mem_singleton.1 mem⟩
  | case3 left some less ih =>
      rcases List.mem_cons.1 mem with first | later
      · exact ⟨_, some, first⟩
      · exact ih later

theorem layering_levels (g : Graph) (cells : PositionSet) : g.Layering cells (g.levels cells) := by
  have started : ∀ p, p ∈ cells ↔ g.ChainTo cells 0 p := fun p => ⟨.start, ChainTo.mem⟩
  obtain ⟨placed, stuck, split, longest, last⟩ := levels_by_chains started
  have all : g.AcyclicIn cells → g.levels cells = placed := by
    intro acyclic
    rcases last with ⟨none, _⟩ | ⟨p, layer, _, mem, trapped⟩
    · rw [split, none, List.append_nil]
    · obtain ⟨q, cycle, _⟩ := (trapped p).1 mem
      exact absurd cycle (acyclic q)
  refine ⟨nodup_topologicalOrder g cells, mem_topologicalOrder g cells, ?_, ?_, ?_, ?_, ?_⟩
  · intro layer mem
    obtain ⟨set, some, rfl⟩ := level_toList g cells mem
    intro empty
    exact some (by rw [← Std.ExtTreeSet.isEmpty_toList, empty]; rfl)
  · intro layer mem
    obtain ⟨set, _, rfl⟩ := level_toList g cells mem
    exact Std.ExtTreeSet.ordered_toList
  · intro acyclic n p
    rw [all acyclic, longest, Nat.zero_add]
  · intro acyclic m n p q
    rw [all acyclic, longest, longest, Nat.zero_add, Nat.zero_add]
    intro first second edge
    exact second.2 _ (.step first.1 ⟨first.1.mem, second.1.mem, edge⟩)
  · intro cyclic
    obtain ⟨p, cycle⟩ := Classical.not_forall.1 cyclic
    rcases last with ⟨_, free⟩ | ⟨_, layer, one, _, trapped⟩
    · exact absurd ⟨p, Classical.not_not.1 cycle, .refl⟩ (free p)
    · exact ⟨placed, layer, by rw [split, one], trapped⟩

/-- The count ends, with the layers that the longest chains call for, and they make up the order of
evaluation. -/
theorem Mirrored.layers_by_chains (mirrored : g.Mirrored) (cells : PositionSet) :
    ∃ layers, g.countedLevels cells = some layers ∧ g.levels cells = layers ∧
      g.topologicalOrder cells = layers.flatten ∧ g.Layering cells layers :=
  ⟨g.levels cells, mirrored.countedLevels_eq cells, rfl, rfl, layering_levels g cells⟩

def crossed : Graph :=
  (((Graph.empty.link ⟨0, 0⟩ ⟨0, 1⟩).link ⟨0, 1⟩ ⟨0, 0⟩).link ⟨0, 1⟩ ⟨0, 2⟩).link ⟨0, 3⟩ ⟨0, 4⟩

theorem crossed_layers :
    crossed.Mirrored ∧
    crossed.countedLevels {⟨0, 4⟩, ⟨0, 3⟩, ⟨0, 1⟩, ⟨0, 0⟩} =
      some [[⟨0, 3⟩], [⟨0, 4⟩], [⟨0, 0⟩, ⟨0, 1⟩]] ∧
    crossed.Layering {⟨0, 4⟩, ⟨0, 3⟩, ⟨0, 1⟩, ⟨0, 0⟩} [[⟨0, 3⟩], [⟨0, 4⟩], [⟨0, 0⟩, ⟨0, 1⟩]] := by
  have mirrored : crossed.Mirrored := (((mirrored_empty.link _ _).link _ _).link _ _).link _ _
  have counted : crossed.countedLevels {⟨0, 4⟩, ⟨0, 3⟩, ⟨0, 1⟩, ⟨0, 0⟩} =
      some [[⟨0, 3⟩], [⟨0, 4⟩], [⟨0, 0⟩, ⟨0, 1⟩]] := by cbv
  obtain ⟨layers, found, _, _, layering⟩ :=
    mirrored.layers_by_chains {⟨0, 4⟩, ⟨0, 3⟩, ⟨0, 1⟩, ⟨0, 0⟩}
  rw [counted] at found
  obtain rfl := Option.some.inj found
  exact ⟨mirrored, counted, layering⟩

end Spreadsheet.Graph
