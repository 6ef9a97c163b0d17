import Mathlib
import Spreadsheet.Proofs.Graph.Reachability

namespace Spreadsheet
open Relation (TransGen)

namespace Neighbours

/-- Every step from `a` ends among the positions met so far, and none of them at a wanted one. -/
def Cleared (n : Neighbours) (wanted seen : PositionSet) (a : Position) : Prop :=
  ∀ b, n.Step a b → b ∈ seen ∧ ¬ b ∈ wanted

theorem Cleared.mono {n : Neighbours} {wanted seen seen' : PositionSet} {p : Position}
    (h : n.Cleared wanted seen p) (grows : ∀ a ∈ seen, a ∈ seen') : n.Cleared wanted seen' p :=
  fun b step => ⟨grows b (h b step).1, (h b step).2⟩

namespace Listing
variable {n : Neighbours} (o : n.Listing) {wanted seen seen' : PositionSet} {p : Position}

theorem leadTo_sound (seen : PositionSet) (waiting : List Position)
    (h : o.leadTo wanted seen waiting = true) :
    ∃ p ∈ waiting, ∃ q ∈ wanted, TransGen n.Step p q := by
  fun_induction o.leadTo wanted seen waiting with
  | case1 seen => cases h
  | case2 seen p rest hit =>
      obtain ⟨q, listed, mem⟩ := List.any_eq_true.1 hit
      exact ⟨p, List.mem_cons_self, q, mem, .single (o.mem_list.1 listed)⟩
  | case3 seen p rest miss none ih =>
      obtain ⟨p', mem, found⟩ := ih h
      exact ⟨p', List.mem_cons_of_mem _ mem, found⟩
  | case4 seen p rest miss q' qs found less ih =>
      obtain ⟨p', mem, q, wanted, path⟩ := ih h
      rcases List.mem_append.1 mem with later | new
      · exact ⟨p', List.mem_cons_of_mem _ later, q, wanted, path⟩
      · rw [← found] at new
        exact ⟨p, List.mem_cons_self, q, wanted, TransGen.trans (.single (o.mem_fresh.1 new).1) path⟩

theorem cleared_of_miss (miss : ¬ (o.list p).any wanted.contains = true)
    (grows : ∀ a ∈ seen, a ∈ seen') (met : ∀ a ∈ o.fresh seen p, a ∈ seen') :
    n.Cleared wanted seen' p := by
  intro b step
  constructor
  · by_cases old : b ∈ seen
    · exact grows b old
    · exact met b (o.mem_fresh.2 ⟨step, old⟩)
  · intro mem
    exact miss (List.any_eq_true.2 ⟨b, o.mem_list.2 step, Std.ExtTreeSet.contains_iff_mem.2 mem⟩)

theorem leadTo_complete (seen : PositionSet) (waiting : List Position)
    (h : o.leadTo wanted seen waiting = false) (entered : ∀ a ∈ waiting, a ∈ seen)
    (done : ∀ a ∈ seen, ¬ a ∈ waiting → n.Cleared wanted seen a) :
    ∃ region : PositionSet, (∀ a ∈ seen, a ∈ region) ∧ ∀ a ∈ region, n.Cleared wanted region a := by
  fun_induction o.leadTo wanted seen waiting with
  | case1 seen => exact ⟨seen, fun a mem => mem, fun a mem => done a mem List.not_mem_nil⟩
  | case2 seen p rest hit => cases h
  | case3 seen p rest miss none ih =>
      have here : n.Cleared wanted seen p := by
        refine o.cleared_of_miss miss (fun _ mem => mem) fun a new => ?_
        rw [none] at new
        cases new
      refine ih h (fun a mem => entered a (List.mem_cons_of_mem _ mem)) fun a mem idle => ?_
      by_cases same : a = p
      · rwa [same]
      · exact done a mem (by simp [same, idle])
  | case4 seen p rest miss q qs found less ih =>
      have grows : ∀ a ∈ seen, a ∈ seen.insertMany (q :: qs) := fun a mem =>
        (PositionSet.mem_insertMany_iff _ _ _).2 (.inl mem)
      have met : ∀ a ∈ q :: qs, a ∈ seen.insertMany (q :: qs) := fun a mem =>
        (PositionSet.mem_insertMany_iff _ _ _).2 (.inr mem)
      have here : n.Cleared wanted (seen.insertMany (q :: qs)) p :=
        o.cleared_of_miss miss grows (by rwa [found])
      have entered' : ∀ a ∈ rest ++ q :: qs, a ∈ seen.insertMany (q :: qs) := by
        intro a mem
        rcases List.mem_append.1 mem with later | new
        · exact grows a (entered a (List.mem_cons_of_mem _ later))
        · exact met a new
      obtain ⟨region, inside, closed⟩ := ih h entered' (by
        intro a mem idle
        rw [List.mem_append, not_or] at idle
        rcases (PositionSet.mem_insertMany_iff _ _ _).1 mem with old | new
        · by_cases same : a = p
          · rwa [same]
          · exact (done a old (by simp [same, idle.1])).mono grows
        · exact absurd new idle.2)
      exact ⟨region, fun a mem => inside a (grows a mem), closed⟩

theorem leadTo_single_iff :
    o.leadTo wanted {p} [p] = true ↔ ∃ q ∈ wanted, TransGen n.Step p q := by
  constructor
  · intro hit
    obtain ⟨p', single, found⟩ := o.leadTo_sound _ _ hit
    obtain rfl := List.mem_singleton.1 single
    exact found
  · rintro ⟨q, mem, path⟩
    refine Classical.byContradiction fun miss => ?_
    have start : ∀ a, a ∈ ({p} : PositionSet) ↔ a = p := fun a =>
      (PositionSet.mem_insert_iff ∅ p a).trans (or_iff_left (PositionSet.not_mem_empty a))
    obtain ⟨region, inside, closed⟩ := o.leadTo_complete {p} [p] (Bool.eq_false_iff.2 miss)
      (fun a waits => (start a).2 (List.mem_singleton.1 waits))
      (fun a mem idle => absurd (List.mem_singleton.2 ((start a).1 mem)) idle)
    have missed : ∀ b, TransGen n.Step p b → b ∈ region ∧ ¬ b ∈ wanted := by
      intro b path
      induction path with
      | single step => exact closed p (inside p ((start p).2 rfl)) _ step
      | tail _ step ih => exact closed _ ih.1 _ step
    exact (missed q path).2 mem

end Listing

theorem leadTo_eq (n : Neighbours) (wanted seen : PositionSet) (waiting : List Position) :
    n.leadTo wanted seen waiting = n.rowMajor.leadTo wanted seen waiting := by
  fun_induction leadTo n wanted seen waiting with
  | case1 seen => rw [Listing.leadTo]
  | case2 seen p rest hit => rw [Listing.leadTo, rowMajor, if_pos hit]
  | case3 seen p rest miss none ih =>
      rw [Listing.leadTo, ih]
      split
      · rename_i hit
        exact absurd hit miss
      · split
        · rfl
        · rename_i found
          cases none.symm.trans found
  | case4 seen p rest miss q qs found less ih =>
      rw [Listing.leadTo, ih]
      split
      · rename_i hit
        exact absurd hit miss
      · split
        · rename_i none
          cases found.symm.trans none
        · rename_i found'
          cases found.symm.trans found'
          rfl

end Neighbours

namespace Graph
variable {g : Graph}

theorem Acyclic.path_kept (h : g.Acyclic) {p q : Position} (ps : PositionSet)
    (path : TransGen g.Edge p q) : TransGen (g.setPrecedents p ps).Edge p q := by
  induction path with
  | @single a edge =>
      have other : a ≠ p := by
        rintro rfl
        exact h a (.single edge)
      exact .single (edge_setPrecedents.2 (.inr ⟨other, edge⟩))
  | @tail a b front edge ih =>
      have other : b ≠ p := by
        rintro rfl
        exact h b (.tail front edge)
      exact .tail ih (edge_setPrecedents.2 (.inr ⟨other, edge⟩))

theorem wouldCreateCycleBy_eq (g : Graph) (o : g.dependents.Listing) (p : Position) (ps : PositionSet) :
    g.wouldCreateCycleBy o p ps = g.wouldCreateCycle p ps := by
  unfold wouldCreateCycleBy wouldCreateCycle
  cases ps.contains p with
  | true => rfl
  | false =>
      cases ps.isEmpty with
      | true => rfl
      | false =>
          rw [Bool.eq_iff_iff]
          simp only [Bool.false_eq_true, if_false, Bool.false_or, Bool.not_false, Bool.true_and]
          rw [o.leadTo_single_iff, List.any_eq_true]
          constructor
          · rintro ⟨q, mem, path⟩
            refine ⟨q, ?_, Std.ExtTreeSet.contains_iff_mem.2 mem⟩
            exact Std.ExtTreeSet.mem_toList.2
              (Neighbours.mem_reach.2 ⟨p, List.mem_singleton.2 rfl, path⟩)
          · rintro ⟨q, reached, mem⟩
            obtain ⟨p', single, path⟩ := Neighbours.mem_reach.1 (Std.ExtTreeSet.mem_toList.1 reached)
            obtain rfl := List.mem_singleton.1 single
            exact ⟨q, Std.ExtTreeSet.contains_iff_mem.1 mem, path⟩

theorem closesCycle_eq (g : Graph) (p : Position) (ps : PositionSet) :
    g.closesCycle p ps = g.wouldCreateCycle p ps := by
  rw [closesCycle, Neighbours.leadTo_eq]
  exact wouldCreateCycleBy_eq g g.dependents.rowMajor p ps

/-- The search says yes exactly if the new precedents close a cycle. -/
theorem Acyclic.closesCycle_exact (acyclic : g.Acyclic) (mirrored : g.Mirrored) (p : Position)
    (ps : PositionSet) :
    g.closesCycle p ps = g.wouldCreateCycle p ps ∧
    (g.closesCycle p ps = true ↔ ∃ q, TransGen (g.setPrecedents p ps).Edge q q) := by
  refine ⟨closesCycle_eq g p ps, ?_⟩
  rw [closesCycle_eq]
  constructor
  · intro closes
    refine ⟨p, ?_⟩
    rcases mirrored.wouldCreateCycle_iff.1 closes with self | ⟨q, mem, path⟩
    · exact .single (edge_setPrecedents.2 (.inl ⟨rfl, self⟩))
    · exact .tail (acyclic.path_kept ps path) (edge_setPrecedents.2 (.inl ⟨rfl, mem⟩))
  · rintro ⟨q, cycle⟩
    refine Classical.byContradiction fun passes => ?_
    exact acyclic.setPrecedents mirrored (Bool.eq_false_iff.2 passes) q cycle

/-! ## A cell between two others -/

def referredTwice : Graph :=
  (Graph.empty.setPrecedents ⟨0, 1⟩ {⟨0, 0⟩, ⟨0, 3⟩}).setPrecedents ⟨0, 2⟩ {⟨0, 1⟩}

theorem referredTwice_acyclic : referredTwice.Acyclic ∧ referredTwice.Mirrored := by
  have first : Graph.empty.wouldCreateCycle ⟨0, 1⟩ {⟨0, 0⟩, ⟨0, 3⟩} = false := by cbv
  have second : (Graph.empty.setPrecedents ⟨0, 1⟩ {⟨0, 0⟩, ⟨0, 3⟩}).wouldCreateCycle ⟨0, 2⟩
      {⟨0, 1⟩} = false := by cbv
  have mirrored := mirrored_empty.setPrecedents ⟨0, 1⟩ {⟨0, 0⟩, ⟨0, 3⟩}
  exact ⟨(acyclic_empty.setPrecedents mirrored_empty first).setPrecedents mirrored second,
    mirrored.setPrecedents _ _⟩

theorem referredTwice_checked :
    referredTwice.Acyclic ∧ referredTwice.Mirrored ∧
    (∃ q, TransGen (referredTwice.setPrecedents ⟨0, 1⟩ {⟨0, 0⟩, ⟨0, 2⟩}).Edge q q) ∧
    ¬ ∃ q, TransGen (referredTwice.setPrecedents ⟨0, 1⟩ {⟨0, 0⟩, ⟨0, 4⟩}).Edge q q := by
  obtain ⟨acyclic, mirrored⟩ := referredTwice_acyclic
  refine ⟨acyclic, mirrored, ?_, ?_⟩
  · refine (acyclic.closesCycle_exact mirrored _ _).2.1 ?_
    cbv
  · have passes : referredTwice.closesCycle ⟨0, 1⟩ {⟨0, 0⟩, ⟨0, 4⟩} = false := by cbv
    intro cycle
    rw [(acyclic.closesCycle_exact mirrored _ _).2.2 cycle] at passes
    cases passes

end Graph

end Spreadsheet
