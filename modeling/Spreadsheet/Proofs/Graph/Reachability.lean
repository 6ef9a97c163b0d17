import Mathlib.Logic.Relation
import Spreadsheet.Graph.AnyOrder
import Spreadsheet.Graph.Levels
import Spreadsheet.Proofs.Graph.Edges

namespace Spreadsheet
open Relation (TransGen)

namespace Neighbours

def Step (n : Neighbours) (p q : Position) : Prop := q ∈ n.of p

namespace Listing
variable {n : Neighbours}

theorem mem_fresh (o : n.Listing) {seen : PositionSet} {p q : Position} :
    q ∈ o.fresh seen p ↔ n.Step p q ∧ ¬ q ∈ seen := by
  unfold fresh Step
  rw [List.mem_filter, o.mem_list, Bool.not_eq_true', PositionSet.contains_eq_false_iff]

theorem spread_sound (o : n.Listing) {q : Position} (seen : PositionSet) (stack : List Position)
    (h : q ∈ o.spread seen stack) : q ∈ seen ∨ ∃ p ∈ stack, TransGen n.Step p q := by
  fun_induction o.spread seen stack with
  | case1 seen => exact .inl h
  | case2 seen p rest none ih =>
      rcases ih h with old | ⟨p', mem, path⟩
      · exact .inl old
      · exact .inr ⟨p', List.mem_cons_of_mem _ mem, path⟩
  | case3 seen p rest q' qs found less ih =>
      have step : ∀ a ∈ q' :: qs, n.Step p a := by
        intro a mem
        rw [← found] at mem
        exact (o.mem_fresh.1 mem).1
      rcases ih h with new | ⟨p', mem, path⟩
      · rcases (PositionSet.mem_insertMany_iff _ _ _).1 new with old | mem
        · exact .inl old
        · exact .inr ⟨p, List.mem_cons_self, .single (step q mem)⟩
      · rcases mem_pushed.1 mem with first | later
        · exact .inr ⟨p, List.mem_cons_self, TransGen.trans (.single (step p' first)) path⟩
        · exact .inr ⟨p', List.mem_cons_of_mem _ later, path⟩

theorem spread_closed (o : n.Listing) (seen : PositionSet) (stack : List Position)
    (closed : ∀ a ∈ seen, ¬ a ∈ stack → ∀ b, n.Step a b → b ∈ seen) :
    (∀ a ∈ seen, a ∈ o.spread seen stack) ∧
    (∀ a ∈ stack, ∀ b, n.Step a b → b ∈ o.spread seen stack) ∧
    ∀ a ∈ o.spread seen stack, ∀ b, n.Step a b → b ∈ o.spread seen stack := by
  fun_induction o.spread seen stack with
  | case1 seen =>
      exact ⟨fun a mem => mem, by simp, fun a mem => closed a mem (by simp)⟩
  | case2 seen p rest none ih =>
      have complete : ∀ b, n.Step p b → b ∈ seen := by
        intro b step
        refine Classical.byContradiction fun unseen => ?_
        have mem := o.mem_fresh.2 ⟨step, unseen⟩
        rw [none] at mem
        cases mem
      obtain ⟨keeps, waiting, closes⟩ := ih (by
        intro a mem notWaiting b step
        by_cases same : a = p
        · exact complete b (by rw [← same]; exact step)
        · exact closed a mem (by simp [same, notWaiting]) b step)
      refine ⟨keeps, fun a mem b step => ?_, closes⟩
      rcases List.mem_cons.1 mem with rfl | later
      · exact keeps b (complete b step)
      · exact waiting a later b step
  | case3 seen p rest q qs found less ih =>
      have grows : ∀ a ∈ seen, a ∈ seen.insertMany (q :: qs) := by
        intro a mem
        exact (PositionSet.mem_insertMany_iff _ _ _).2 (.inl mem)
      -- The new cells join the work, so only they and what waited may still lack neighbours.
      have complete : ∀ b, n.Step p b → b ∈ seen.insertMany (q :: qs) := by
        intro b step
        by_cases old : b ∈ seen
        · exact grows b old
        · have mem := o.mem_fresh.2 ⟨step, old⟩
          rw [found] at mem
          exact (PositionSet.mem_insertMany_iff _ _ _).2 (.inr mem)
      obtain ⟨keeps, waiting, closes⟩ := ih (by
        intro a mem notWaiting b step
        rw [mem_pushed, not_or] at notWaiting
        rcases (PositionSet.mem_insertMany_iff _ _ _).1 mem with old | new
        · by_cases same : a = p
          · exact complete b (by rw [← same]; exact step)
          · exact grows b (closed a old (by simp [same, notWaiting.2]) b step)
        · exact absurd new notWaiting.1)
      refine ⟨fun a mem => keeps a (grows a mem), fun a mem b step => ?_, closes⟩
      rcases List.mem_cons.1 mem with rfl | later
      · exact keeps b (complete b step)
      · exact waiting a (mem_pushed.2 (.inr later)) b step

theorem mem_spread (o : n.Listing) {starts : List Position} {q : Position} :
    q ∈ o.spread ∅ starts ↔ ∃ p ∈ starts, TransGen n.Step p q := by
  constructor
  · intro h
    rcases o.spread_sound ∅ starts h with none | found
    · exact absurd none (PositionSet.not_mem_empty q)
    · exact found
  · rintro ⟨p, mem, path⟩
    obtain ⟨_, waiting, closes⟩ := o.spread_closed ∅ starts
      fun a none => absurd none (PositionSet.not_mem_empty a)
    induction path with
    | single step => exact waiting p mem _ step
    | tail _ step ih => exact closes _ ih _ step

end Listing

def lastFirst (n : Neighbours) : n.Listing :=
  ⟨fun p => (n.of p).toList.reverse, fun _ => List.reverse_perm _⟩

theorem spread_eq (n : Neighbours) (seen : PositionSet) (work : List Position) :
    n.spread seen work = n.lastFirst.spread seen work := by
  have backwards : ∀ seen p, n.lastFirst.fresh seen p = (n.fresh seen p).reverse :=
    fun _ _ => List.filter_reverse
  fun_induction spread n seen work with
  | case1 seen => rw [Listing.spread]
  | case2 seen p rest none ih =>
      rw [Listing.spread, ih]
      split
      · rfl
      · rename_i found
        rw [backwards, none] at found
        cases found
  | case3 seen p rest q qs found less ih =>
      rw [Listing.spread, ih]
      split
      · rename_i none
        rw [backwards, found, List.reverse_eq_nil_iff] at none
        cases none
      · rename_i q' qs' found'
        rw [backwards, found] at found'
        have same : seen.insertMany (q' :: qs') = seen.insertMany (q :: qs) := by
          refine Std.ExtTreeSet.ext_mem fun a => ?_
          rw [PositionSet.mem_insertMany_iff, PositionSet.mem_insertMany_iff, ← found', List.mem_reverse]
        dsimp only
        rw [same, pushed, ← found', List.reverse_reverse]

theorem mem_reach {n : Neighbours} {starts : List Position} {q : Position} :
    q ∈ n.reach starts ↔ ∃ p ∈ starts, TransGen n.Step p q := by
  rw [reach, spread_eq, Listing.mem_spread]

theorem reach_of_step {n : Neighbours} {p q : Position} (step : n.Step p q) :
    ∀ a ∈ n.reach [q], a ∈ n.reach [p] := by
  intro a mem
  obtain ⟨q', single, path⟩ := mem_reach.1 mem
  obtain rfl := List.mem_singleton.1 single
  exact mem_reach.2 ⟨p, List.mem_singleton.2 rfl, TransGen.trans (.single step) path⟩

end Neighbours

namespace Graph

def Acyclic (g : Graph) : Prop := ∀ p, ¬ TransGen g.Edge p p

theorem acyclic_empty : Graph.empty.Acyclic := by
  intro p path
  cases path with
  | single edge => exact not_edge_empty _ _ edge
  | tail _ edge => exact not_edge_empty _ _ edge

theorem Acyclic.anti {g g' : Graph} (h : g'.Acyclic) (sub : ∀ a b, g.Edge a b → g'.Edge a b) :
    g.Acyclic := fun p path => h p (TransGen.mono sub _ _ path)

theorem Acyclic.removePrecedents {g : Graph} (h : g.Acyclic) (p : Position) :
    (g.removePrecedents p).Acyclic := h.anti fun _ _ edge => (edge_removePrecedents.1 edge).1

theorem Mirrored.mem_transitiveDependents {g : Graph} (h : g.Mirrored) {roots : List Position}
    {q : Position} : q ∈ g.transitiveDependents roots ↔ ∃ p ∈ roots, TransGen g.Edge p q := by
  have steps : g.dependents.Step = g.Edge := by
    funext p q
    exact propext (h p q).symm
  unfold transitiveDependents
  rw [Neighbours.mem_reach, steps]

theorem Mirrored.wouldCreateCycle_iff {g : Graph} (h : g.Mirrored) {p : Position}
    {ps : PositionSet} :
    g.wouldCreateCycle p ps = true ↔ p ∈ ps ∨ ∃ q ∈ ps, TransGen g.Edge p q := by
  unfold wouldCreateCycle
  rw [Bool.or_eq_true, Bool.and_eq_true, List.any_eq_true]
  constructor
  · rintro (self | ⟨_, q, reached, mem⟩)
    · exact .inl self
    · rw [Std.ExtTreeSet.mem_toList, h.mem_transitiveDependents] at reached
      obtain ⟨p', single, path⟩ := reached
      obtain rfl := List.mem_singleton.1 single
      exact .inr ⟨q, mem, path⟩
  · rintro (self | ⟨q, mem, path⟩)
    · exact .inl self
    · have some : ¬ ps.isEmpty = true := fun none => (PositionSet.isEmpty_iff ps).1 none q mem
      refine .inr ⟨by simpa using some, q, ?_, mem⟩
      rw [Std.ExtTreeSet.mem_toList, h.mem_transitiveDependents]
      exact ⟨p, List.mem_singleton.2 rfl, path⟩

theorem wouldCreateCycle_mono {g g' : Graph} (h : g.Mirrored) (h' : g'.Mirrored)
    (sub : ∀ a b, g.Edge a b → g'.Edge a b) {p : Position} {ps : PositionSet}
    (closes : g.wouldCreateCycle p ps = true) : g'.wouldCreateCycle p ps = true := by
  rw [h'.wouldCreateCycle_iff]
  rcases h.wouldCreateCycle_iff.1 closes with self | ⟨q, mem, path⟩
  · exact .inl self
  · exact .inr ⟨q, mem, TransGen.mono sub _ _ path⟩

/-- A path from a cell along the new edges follows the old ones until it comes back to the cell, and
then the check would have said so. -/
theorem path_from_replaced {g : Graph} (h : g.Mirrored) {p q : Position} {ps : PositionSet}
    (open_ : g.wouldCreateCycle p ps = false) (path : TransGen (g.setPrecedents p ps).Edge p q) :
    TransGen g.Edge p q ∧ q ≠ p := by
  have notSelf : ¬ p ∈ ps := fun self => by
    rw [h.wouldCreateCycle_iff.2 (.inl self)] at open_
    cases open_
  have notBack : ∀ a ∈ ps, ¬ TransGen g.Edge p a := fun a mem path => by
    rw [h.wouldCreateCycle_iff.2 (.inr ⟨a, mem, path⟩)] at open_
    cases open_
  induction path with
  | single edge =>
      rcases edge_setPrecedents.1 edge with ⟨_, self⟩ | ⟨other, old⟩
      · exact absurd self notSelf
      · exact ⟨.single old, other⟩
  | @tail b c _ edge ih =>
      rcases edge_setPrecedents.1 edge with ⟨_, mem⟩ | ⟨other, old⟩
      · -- The path is about to return to `p`, over a precedent that depends on `p`.
        exact absurd ih.1 (notBack b mem)
      · exact ⟨.tail ih.1 old, other⟩

theorem path_through_replaced {g : Graph} {p a b : Position} {ps : PositionSet}
    (path : TransGen (g.setPrecedents p ps).Edge a b) :
    TransGen g.Edge a b ∨ (TransGen (g.setPrecedents p ps).Edge a p ∧
      (b = p ∨ TransGen (g.setPrecedents p ps).Edge p b)) := by
  induction path with
  | @single b edge =>
      rcases edge_setPrecedents.1 edge with ⟨rfl, _⟩ | ⟨_, old⟩
      · exact .inr ⟨.single edge, .inl rfl⟩
      · exact .inl (.single old)
  | @tail b c front edge ih =>
      rcases edge_setPrecedents.1 edge with ⟨rfl, _⟩ | ⟨_, old⟩
      · exact .inr ⟨.tail front edge, .inl rfl⟩
      · rcases ih with before | ⟨toP, rfl | fromP⟩
        · exact .inl (.tail before old)
        · exact .inr ⟨toP, .inr (.single edge)⟩
        · exact .inr ⟨toP, .inr (.tail fromP edge)⟩

theorem Acyclic.setPrecedents {g : Graph} (h : g.Acyclic) (mirrored : g.Mirrored) {p : Position}
    {ps : PositionSet} (open_ : g.wouldCreateCycle p ps = false) :
    (g.setPrecedents p ps).Acyclic := by
  intro a cycle
  rcases path_through_replaced cycle with old | ⟨toP, rfl | fromP⟩
  · exact h a old
  · exact (path_from_replaced mirrored open_ cycle).2 rfl
  · exact (path_from_replaced mirrored open_ (TransGen.trans fromP toP)).2 rfl

theorem Acyclic.wellFounded {g : Graph} (h : g.Acyclic) : WellFounded g.Edge := by
  have steps : ∀ p q, g.Edge p q → g.precedents.Step q p := fun _ _ edge => edge
  have backwards : ∀ p q, TransGen g.precedents.Step p q → TransGen g.Edge q p := by
    intro p q path
    induction path with
    | single step => exact .single step
    | tail _ step ih => exact TransGen.trans (.single step) ih
  -- From a precedent fewer cells can be reached backwards: without a cycle it is not among them.
  refine Subrelation.wf (r := InvImage (· < ·) fun p => (g.precedents.reach [p]).size) ?_
    (InvImage.wf _ Nat.lt_wfRel.wf)
  intro p q edge
  have notBack : ¬ p ∈ g.precedents.reach [p] := by
    intro mem
    obtain ⟨p', single, path⟩ := Neighbours.mem_reach.1 mem
    obtain rfl := List.mem_singleton.1 single
    exact h p' (backwards p' p' path)
  have reached : p ∈ g.precedents.reach [q] :=
    Neighbours.mem_reach.2 ⟨q, List.mem_singleton.2 rfl, .single (steps p q edge)⟩
  have part : ((g.precedents.reach [q]).filter fun a => !!(g.precedents.reach [p]).contains a) =
      g.precedents.reach [p] := by
    apply Std.ExtTreeSet.ext_mem
    intro a
    rw [PositionSet.mem_filter_iff, Bool.not_not, Std.ExtTreeSet.contains_iff_mem]
    exact ⟨fun both => both.2, fun mem => ⟨Neighbours.reach_of_step (steps p q edge) a mem, mem⟩⟩
  have more : ¬ ((g.precedents.reach [q]).filter fun a =>
      !(g.precedents.reach [p]).contains a).isEmpty = true := by
    intro none
    refine (PositionSet.isEmpty_iff _).1 none p ((PositionSet.mem_filter_iff _ _ _).2 ⟨reached, ?_⟩)
    rw [Bool.not_eq_true', PositionSet.contains_eq_false_iff]
    exact notBack
  have smaller := size_filter_not_lt more
  rw [part] at smaller
  exact smaller

theorem mem_topologicalOrder (g : Graph) (cells : PositionSet) (p : Position) :
    p ∈ g.topologicalOrder cells ↔ p ∈ cells := by
  unfold topologicalOrder
  fun_induction levels g cells with
  | case1 left none empty =>
      have absent := (PositionSet.isEmpty_iff left).1 empty p
      simp [absent]
  | case2 left none some => simp
  | case3 left some less ih =>
      rw [List.flatten_cons, List.mem_append, ih, Std.ExtTreeSet.mem_toList,
        PositionSet.mem_filter_iff, PositionSet.mem_filter_iff]
      cases g.isReady left p with
      | true => simp
      | false => simp

end Graph

end Spreadsheet
