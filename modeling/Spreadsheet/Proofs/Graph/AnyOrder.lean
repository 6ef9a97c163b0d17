import Spreadsheet.Proofs.Graph.Countdown
import Spreadsheet.Proofs.Graph.CycleCheck

namespace Spreadsheet
open Relation (TransGen ReflTransGen)

namespace Neighbours.Listing
variable {n : Neighbours} (o : n.Listing) {home : Position}

theorem leadBack_sound (visited : PositionSet) (stack : List Position)
    (h : o.leadBack home visited stack = true) : ∃ p ∈ stack, ReflTransGen n.Step p home := by
  fun_induction o.leadBack home visited stack with
  | case1 visited => cases h
  | case2 visited rest => exact ⟨home, List.mem_cons_self, .refl⟩
  | case3 visited p rest other old ih =>
      obtain ⟨p', mem, path⟩ := ih h
      exact ⟨p', List.mem_cons_of_mem _ mem, path⟩
  | case4 visited p rest other new less ih =>
      obtain ⟨p', mem, path⟩ := ih h
      rcases mem_pushed.1 mem with next | later
      · exact ⟨p, List.mem_cons_self, .head (o.mem_list.1 next) path⟩
      · exact ⟨p', List.mem_cons_of_mem _ later, path⟩

/-- A search that does not come home ends with a region that no step leaves and that home is not in. -/
theorem leadBack_complete (visited : PositionSet) (stack : List Position)
    (h : o.leadBack home visited stack = false)
    (done : ∀ a ∈ visited, a ≠ home ∧ ∀ b, n.Step a b → b ∈ visited ∨ b ∈ stack) :
    ∃ region : PositionSet, (∀ a, a ∈ visited ∨ a ∈ stack → a ∈ region) ∧
      ∀ a ∈ region, a ≠ home ∧ ∀ b, n.Step a b → b ∈ region := by
  fun_induction o.leadBack home visited stack with
  | case1 visited =>
      have listed : ∀ a, a ∈ visited ∨ a ∈ [] → a ∈ visited := fun a mem => mem.elim id (nomatch ·)
      exact ⟨visited, listed, fun a mem => ⟨(done a mem).1, fun b step => listed b ((done a mem).2 b step)⟩⟩
  | case2 visited rest => cases h
  | case3 visited p rest other old ih =>
      have known : ∀ a, a ∈ visited ∨ a ∈ p :: rest → a ∈ visited ∨ a ∈ rest := by
        rintro a (mem | mem)
        · exact .inl mem
        · rcases List.mem_cons.1 mem with rfl | later
          · exact .inl (Std.ExtTreeSet.contains_iff_mem.1 old)
          · exact .inr later
      obtain ⟨region, inside, closed⟩ := ih h fun a mem =>
        ⟨(done a mem).1, fun b step => known b ((done a mem).2 b step)⟩
      exact ⟨region, fun a mem => inside a (known a mem), closed⟩
  | case4 visited p rest other new less ih =>
      have known : ∀ a, a ∈ visited ∨ a ∈ p :: rest →
          a ∈ visited.insert p ∨ a ∈ pushed (o.list p) rest := by
        rintro a (mem | mem)
        · exact .inl ((PositionSet.mem_insert_iff _ _ _).2 (.inr mem))
        · rcases List.mem_cons.1 mem with rfl | later
          · exact .inl ((PositionSet.mem_insert_iff _ _ _).2 (.inl rfl))
          · exact .inr (mem_pushed.2 (.inr later))
      obtain ⟨region, inside, closed⟩ := ih h (by
        intro a mem
        rcases (PositionSet.mem_insert_iff _ _ _).1 mem with rfl | old
        · exact ⟨other, fun b step => .inr (mem_pushed.2 (.inl (o.mem_list.2 step)))⟩
        · exact ⟨(done a old).1, fun b step => known b ((done a old).2 b step)⟩)
      exact ⟨region, fun a mem => inside a (known a mem), closed⟩

theorem leadBack_iff {stack : List Position} :
    o.leadBack home ∅ stack = true ↔ ∃ p ∈ stack, ReflTransGen n.Step p home := by
  constructor
  · exact o.leadBack_sound ∅ stack
  · rintro ⟨p, mem, path⟩
    refine Classical.byContradiction fun away => ?_
    obtain ⟨region, inside, closed⟩ := o.leadBack_complete ∅ stack (Bool.eq_false_iff.2 away)
      fun a none => absurd none (PositionSet.not_mem_empty a)
    have within : ∀ q, ReflTransGen n.Step p q → q ∈ region := by
      intro q path
      induction path with
      | refl => exact inside p (.inr mem)
      | tail _ step ih => exact (closed _ ih).2 _ step
    exact (closed home (within home path)).1 rfl

end Neighbours.Listing

namespace Countdown
variable {c c' c'' : Countdown} {ps qs : List Position}

theorem Suffices.perm (enough : c.Suffices ps) (perm : ps.Perm qs) : c.Suffices qs := by
  intro q n found
  rw [← perm.count_eq]
  exact enough q n found

theorem Arrived.unique (h : Arrived c c' ps) (h' : Arrived c c'' qs) (perm : ps.Perm qs) : c' = c'' := by
  have waiting : c'.waiting = c''.waiting := by
    refine Std.ExtTreeMap.ext_getElem? fun q => ?_
    rw [h.waiting, h'.waiting, perm.count_eq]
  have ready : c'.ready = c''.ready := by
    refine Std.ExtTreeSet.ext_mem fun q => ?_
    rw [h.ready, h'.ready, perm.count_eq]
  cases c'
  cases c''
  obtain rfl := waiting
  obtain rfl := ready
  rfl

theorem suffices_of_arriveAll (h : c.arriveAll ps = some c') : c.Suffices ps := by
  induction ps generalizing c with
  | nil => exact fun q n _ => by simp
  | cons p ps ih =>
      obtain ⟨mid, first, later⟩ := Option.bind_eq_some_iff.1 h
      have enough := ih later
      intro q n found
      unfold arrive at first
      split at first
      · rename_i uncounted
        obtain rfl := Option.some.inj first
        have other : p ≠ q := by
          rintro rfl
          cases uncounted.symm.trans found
        rw [List.count_cons_of_ne other]
        exact enough q n found
      · cases first
      · rename_i m counted
        obtain rfl := Option.some.inj first
        by_cases same : q = p
        · obtain rfl : m + 1 = n := Option.some.inj (counted.symm.trans (same ▸ found))
          rw [same, List.count_cons_self]
          exact Nat.succ_le_succ (enough p m (by rw [OrderedMap.insert_at, if_pos rfl]))
        · rw [List.count_cons_of_ne (Ne.symm same)]
          exact enough q n (by rw [OrderedMap.insert_at, if_neg same, found])

theorem arriveAll_perm (c : Countdown) (perm : ps.Perm qs) : c.arriveAll ps = c.arriveAll qs := by
  by_cases enough : c.Suffices ps
  · obtain ⟨c', goes, arrived⟩ := arriveAll_of_suffices enough
    obtain ⟨c'', goes', arrived'⟩ := arriveAll_of_suffices (enough.perm perm)
    rw [goes, goes', arrived.unique arrived' perm]
  · have stuck : ∀ {rs}, ps.Perm rs → c.arriveAll rs = none := fun perm =>
      Option.eq_none_iff_forall_ne_some.2 fun c' goes =>
        enough ((suffices_of_arriveAll goes).perm perm.symm)
    rw [stuck .rfl, stuck perm]

end Countdown

namespace Graph
variable {g : Graph} {cells left : PositionSet}

theorem transitiveDependentsBy_eq (g : Graph) (o : g.dependents.Listing) (roots : List Position) :
    g.transitiveDependentsBy o roots = g.transitiveDependents roots := by
  refine Std.ExtTreeSet.ext_mem fun q => ?_
  rw [transitiveDependentsBy, transitiveDependents, o.mem_spread, Neighbours.mem_reach]
  simp only [Neighbours.mem_pushed, List.not_mem_nil, or_false]

theorem hasCircularReferenceBy_eq (g : Graph) (o : g.precedents.Listing) (p : Position) :
    g.hasCircularReferenceBy o p = g.hasCircularReference p := by
  rw [Bool.eq_iff_iff, hasCircularReferenceBy, hasCircularReference, o.leadBack_iff,
    Std.ExtTreeSet.contains_iff_mem, Neighbours.mem_reach]
  simp only [Neighbours.mem_pushed, List.not_mem_nil, or_false, o.mem_list, List.mem_singleton,
    exists_eq_left]
  exact (TransGen.head'_iff (r := g.precedents.Step)).symm

theorem transGen_precedents_iff (g : Graph) {p q : Position} :
    TransGen g.precedents.Step p q ↔ TransGen g.Edge q p :=
  Relation.transGen_swap (r := g.Edge)

theorem hasCircularReference_iff (g : Graph) (p : Position) :
    g.hasCircularReference p = true ↔ TransGen g.Edge p p := by
  rw [hasCircularReference, Std.ExtTreeSet.contains_iff_mem, Neighbours.mem_reach,
    ← transGen_precedents_iff]
  simp only [List.mem_singleton, exists_eq_left]

/-- Both searches are exact, whatever order they go in: one comes to the cells that a path of one edge or
more leads to from a root, and the other finds out the cells that lie on a cycle. -/
theorem Mirrored.searches_exact (h : g.Mirrored) :
    (∀ roots : List Position,
      (∀ q, q ∈ g.transitiveDependents roots ↔ ∃ p ∈ roots, TransGen g.Edge p q) ∧
      ∀ o, g.transitiveDependentsBy o roots = g.transitiveDependents roots) ∧
    (∀ p : Position,
      (g.hasCircularReference p = true ↔ TransGen g.Edge p p) ∧
      ∀ o, g.hasCircularReferenceBy o p = g.hasCircularReference p) :=
  ⟨fun roots => ⟨fun _ => h.mem_transitiveDependents, fun o => transitiveDependentsBy_eq g o roots⟩,
    fun p => ⟨hasCircularReference_iff g p, fun o => hasCircularReferenceBy_eq g o p⟩⟩

def sideCycle : Graph :=
  ((Graph.empty.link ⟨0, 0⟩ ⟨0, 1⟩).link ⟨0, 1⟩ ⟨0, 2⟩).link ⟨0, 2⟩ ⟨0, 1⟩

theorem sideCycle_searched :
    sideCycle.Mirrored ∧
    (∃ p ∈ [⟨0, 0⟩, ⟨0, 1⟩], TransGen sideCycle.Edge p ⟨0, 1⟩) ∧
    ¬ (∃ p ∈ [⟨0, 0⟩, ⟨0, 1⟩], TransGen sideCycle.Edge p ⟨0, 0⟩) ∧
    TransGen sideCycle.Edge ⟨0, 2⟩ ⟨0, 2⟩ ∧ ¬ TransGen sideCycle.Edge ⟨0, 0⟩ ⟨0, 0⟩ := by
  have mirrored : sideCycle.Mirrored := ((mirrored_empty.link _ _).link _ _).link _ _
  obtain ⟨dependents, cycles⟩ := mirrored.searches_exact
  have away : sideCycle.hasCircularReference ⟨0, 0⟩ = false := by cbv
  have missed : (sideCycle.transitiveDependents [⟨0, 0⟩, ⟨0, 1⟩]).contains ⟨0, 0⟩ = false := by cbv
  refine ⟨mirrored, ((dependents _).1 _).1 ?_, ?_, (cycles _).1.1 ?_, ?_⟩
  · refine Std.ExtTreeSet.contains_iff_mem.1 ?_
    cbv
  · intro reached
    have found := Std.ExtTreeSet.contains_iff_mem.2 (((dependents _).1 _).2 reached)
    rw [missed] at found
    cases found
  · cbv
  · intro cycle
    rw [(cycles _).1.2 cycle] at away
    cases away

/-! ## Layers -/

theorem degreesBy_eq (o : g.LevelOrders cells) : degreesBy o = g.degrees cells := by
  have counts : ∀ p, (o.precedents.list p).countP cells.contains = g.degreeIn cells p :=
    fun p => (o.precedents.perm p).countP_eq _
  unfold degreesBy degrees
  simp only [counts]
  refine (OrderedMap.ofList_perm ?_ (o.counted_perm.symm.map _)).symm
  exact List.pairwise_map.2 (PositionSet.nodup_toList cells)

theorem countdownBy_eq (o : g.LevelOrders cells) : countdownBy o = g.countdown cells := by
  have tracks := tracks_countdown g cells
  have ready : (countdownBy o).ready = (g.countdown cells).ready := by
    refine Std.ExtTreeSet.ext_mem fun p => ?_
    rw [tracks.ready, PositionSet.mem_filter_iff, ← degreeIn_eq_zero]
    show p ∈ (Std.ExtTreeSet.ofList (o.checked.filter _) : PositionSet) ↔ _
    rw [PositionSet.mem_ofList_iff, List.mem_filter, o.checked_perm.mem_iff, Std.ExtTreeSet.mem_toList,
      degreesBy_eq]
    refine and_congr_right fun mem => ?_
    have counted : (g.degrees cells)[p]? = _ := tracks.inside p mem
    rw [counted]
    simp
  show Countdown.mk (degreesBy o) (countdownBy o).ready = _
  rw [ready, degreesBy_eq]
  rfl

theorem placeBy_eq (o : g.dependents.Listing) (c : Countdown) : placeBy o c = g.place c :=
  Countdown.arriveAll_perm _ (List.Perm.flatMap_left _ fun p _ => o.perm p)

theorem placeAllBy_eq (o : g.dependents.Listing) (c : Countdown) : placeAllBy o c = g.placeAll c := by
  fun_induction g.placeAll c with
  | case1 c done => rw [placeAllBy, dif_pos done]
  | case2 c more stuck =>
      rw [placeAllBy, dif_neg more]
      split
      · rfl
      · rename_i goes
        rw [placeBy_eq, stuck] at goes
        cases goes
  | case3 c more next goes less ih =>
      rw [placeAllBy, dif_neg more, ← ih]
      split
      · rename_i stuck
        rw [placeBy_eq, goes] at stuck
        cases stuck
      · rename_i goes'
        rw [placeBy_eq, goes] at goes'
        cases goes'
        rfl

theorem Tracks.restBy_eq {c : Countdown} (h : g.Tracks cells left c) (o : g.LevelOrders cells) :
    restBy o c = c.behind.keys := by
  have perm : (restBy o c).Perm (o.left.filter fun p => c.waiting[p]?.any (0 < ·)) :=
    List.mergeSort_perm _ _
  have same : ∀ p, p ∈ restBy o c ↔ p ∈ c.behind.keys := by
    intro p
    rw [perm.mem_iff, List.mem_filter, o.left_perm.mem_iff, Std.ExtTreeSet.mem_toList,
      PositionMap.mem_keys_iff]
    simp only [Countdown.behind_at, Option.filter_eq_some_iff, Option.any_eq_true, decide_eq_true_eq,
      bne_iff_ne]
    constructor
    · rintro ⟨_, n, found, positive⟩
      exact ⟨n, found, Nat.pos_iff_ne_zero.1 positive⟩
    · rintro ⟨n, found, positive⟩
      exact ⟨(h.counted found).1, n, found, Nat.pos_iff_ne_zero.2 positive⟩
  have nodup : (restBy o c).Nodup :=
    perm.nodup_iff.2 ((o.left_perm.nodup_iff.2 (PositionSet.nodup_toList cells)).filter _)
  have sorted : (restBy o c).Pairwise fun p q => (compare p q).isLE = true := by
    refine List.pairwise_mergeSort (fun p q r => Std.TransCmp.isLE_trans) (fun p q => ?_) _
    have flip : compare q p = (compare p q).swap := Std.OrientedCmp.eq_swap
    rw [flip]
    cases compare p q <;> rfl
  refine List.Perm.eq_of_pairwise ?_ sorted
    (Std.ExtTreeMap.ordered_keys.imp fun before => Ordering.isLE_of_eq_lt before)
    ((List.perm_ext_iff_of_nodup nodup (PositionMap.keys_nodup _)).2 same)
  intro p q _ _ before after
  exact OrderedMap.compare_eq_eq.1 (Std.OrientedCmp.isLE_antisymm before after)

theorem Mirrored.levelsBy_eq (h : g.Mirrored) (o : g.LevelOrders cells) :
    levelsBy o = some (g.levels cells) := by
  obtain ⟨layers, last, rest, runs, ends, _⟩ := (tracks_countdown g cells).placeAll h
  rw [← h.countedLevels_eq, levelsBy, countedLevels, placeAllBy_eq, countdownBy_eq, runs,
    Option.map_some, Option.map_some]
  dsimp only
  rw [ends.restBy_eq]

end Graph

end Spreadsheet
