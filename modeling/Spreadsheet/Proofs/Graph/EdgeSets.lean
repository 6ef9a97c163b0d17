import Mathlib.Data.Finset.Image
import Mathlib.Data.Finset.Union
import Spreadsheet.Proofs.Graph.AnyOrder

/-!
# A graph is its set of edges

Edits change a graph as they change a plain set of edges, in whatever order their loops run. Both ends of
every edge are kept and no cell without edges is, so that two graphs with the same edges are the same
graph, however they were built, and give the same answers.
-/

namespace Spreadsheet

def EdgeEdit.edges : EdgeEdit → Finset (Position × Position) → Finset (Position × Position)
  | add p q, E => insert (p, q) E
  | set p ps, E => E.filter (fun e => e.2 ≠ p) ∪ ps.toList.toFinset.image fun q => (q, p)
  | remove p, E => E.filter fun e => e.2 ≠ p
  | clear, _ => ∅

def edgesAfter (edits : List EdgeEdit) : Finset (Position × Position) :=
  edits.foldl (fun E edit => edit.edges E) ∅

namespace Neighbours
variable {n n' : Neighbours} {p q : Position}

def Trimmed (n : Neighbours) : Prop := ∀ (p : Position) set, n[p]? = some set → set ≠ ∅

theorem Trimmed.link (h : n.Trimmed) (p q : Position) : (n.link p q).Trimmed := by
  intro a set entry
  unfold Neighbours.link at entry
  rw [OrderedMap.insert_at] at entry
  split at entry
  · cases entry
    exact Std.ExtTreeSet.insert_ne_empty
  · exact h a set entry

theorem Trimmed.erase (h : n.Trimmed) (p : Position) : Neighbours.Trimmed (n.erase p) := by
  intro a set entry
  rw [OrderedMap.erase_at] at entry
  split at entry
  · cases entry
  · exact h a set entry

theorem Trimmed.unlink (h : n.Trimmed) (p q : Position) : (n.unlink p q).Trimmed := by
  unfold Neighbours.unlink
  split
  · exact h
  · dsimp only
    split
    · exact h.erase p
    · rename_i left
      intro a set entry
      rw [OrderedMap.insert_at] at entry
      split at entry
      · cases entry
        rwa [Std.ExtTreeSet.isEmpty_iff] at left
      · exact h a set entry

theorem Trimmed.foldl_unlink (qs : List Position) (h : n.Trimmed) (p : Position) :
    (qs.foldl (fun n q => n.unlink q p) n).Trimmed := by
  induction qs generalizing n with
  | nil => exact h
  | cons q qs ih => exact ih (h.unlink q p)

theorem entry_iff (h : n.Trimmed) {set : PositionSet} :
    n[p]? = some set ↔ n.of p = set ∧ set ≠ ∅ := by
  unfold of
  cases entry : n[p]? with
  | none =>
      simp only [reduceCtorEq, Option.getD_none, false_iff, not_and, not_not]
      exact Eq.symm
  | some set' =>
      rw [Option.some.injEq, Option.getD_some, iff_self_and]
      rintro rfl
      exact h p set' entry

theorem Trimmed.ext (h : n.Trimmed) (h' : n'.Trimmed) (same : ∀ p q, q ∈ n.of p ↔ q ∈ n'.of p) :
    n = n' := by
  refine Std.ExtTreeMap.ext_getElem? fun p => Option.ext fun set => ?_
  have sets : n.of p = n'.of p := Std.ExtTreeSet.ext_mem fun q => same p q
  rw [entry_iff h, entry_iff h', sets]

theorem Trimmed.isEmpty_iff (h : n.Trimmed) : n.isEmpty = true ↔ ∀ p q, ¬ q ∈ n.of p := by
  rw [Std.ExtTreeMap.isEmpty_iff]
  constructor
  · rintro rfl p q
    exact PositionSet.not_mem_empty q
  · intro none
    refine Trimmed.ext h (fun p set entry => ?_) fun p q => ?_
    · cases (PositionMap.empty_at p).symm.trans entry
    · exact iff_of_false (none p q) (PositionSet.not_mem_empty q)

theorem Trimmed.reversedIn {back : Neighbours} (h : n.Trimmed)
    (mirrored : ∀ p q, q ∈ n.of p → p ∈ back.of q) : n.reversedIn back = true := by
  unfold Neighbours.reversedIn
  rw [List.all_eq_true]
  rintro ⟨p, set⟩ listed
  obtain ⟨rfl, kept⟩ := (entry_iff h).1 (OrderedMap.mem_toList_iff.1 listed)
  rw [Bool.and_eq_true, List.all_eq_true, Bool.not_eq_true', ← Bool.not_eq_true, Std.ExtTreeSet.isEmpty_iff]
  refine ⟨kept, fun q mem => ?_⟩
  exact Std.ExtTreeSet.contains_iff_mem.2 (mirrored p q (Std.ExtTreeSet.mem_toList.1 mem))

def pairs (n : Neighbours) : List (Position × Position) :=
  n.toList.flatMap fun (p, set) => set.toList.map fun q => (q, p)

theorem mem_pairs (h : n.Trimmed) : (q, p) ∈ n.pairs ↔ q ∈ n.of p := by
  unfold pairs
  rw [List.mem_flatMap]
  constructor
  · rintro ⟨⟨p', set⟩, listed, mem⟩
    obtain ⟨q', member, same⟩ := List.mem_map.1 mem
    obtain ⟨rfl, rfl⟩ := Prod.mk.inj same
    obtain ⟨rfl, _⟩ := (entry_iff h).1 (OrderedMap.mem_toList_iff.1 listed)
    exact Std.ExtTreeSet.mem_toList.1 member
  · intro mem
    refine ⟨(p, n.of p), OrderedMap.mem_toList_iff.2 ((entry_iff h).2 ⟨rfl, ?_⟩), ?_⟩
    · rintro none
      rw [none] at mem
      exact PositionSet.not_mem_empty q mem
    · exact List.mem_map.2 ⟨q, Std.ExtTreeSet.mem_toList.2 mem, rfl⟩

theorem nodup_pairs (n : Neighbours) : n.pairs.Nodup := by
  refine List.nodup_flatMap.2 ⟨fun ⟨p, set⟩ _ => ?_, ?_⟩
  · exact (PositionSet.nodup_toList set).map fun _ _ same => (Prod.mk.inj same).1
  · refine (OrderedMap.distinct_toList n).imp fun {e e'} apart => ?_
    rintro pair first second
    obtain ⟨_, _, rfl⟩ := List.mem_map.1 first
    obtain ⟨_, _, same⟩ := List.mem_map.1 second
    exact apart (Prod.mk.inj same).2.symm

theorem count_eq (n : Neighbours) : n.count = n.pairs.length :=
  OrderedMap.foldl_eq_length n fun e => by rw [List.length_map, Std.ExtTreeSet.length_toList]

end Neighbours

namespace Graph
variable {g g' : Graph} {E : Finset (Position × Position)}

structure Represents (g : Graph) (E : Finset (Position × Position)) : Prop where
  edge_iff : ∀ p q, g.Edge p q ↔ (p, q) ∈ E
  mirrored : g.Mirrored
  precedents_trimmed : g.precedents.Trimmed
  dependents_trimmed : g.dependents.Trimmed

theorem represents_empty : Graph.empty.Represents ∅ := by
  refine ⟨fun p q => ?_, mirrored_empty, fun p set entry => ?_, fun p set entry => ?_⟩
  · simp [not_edge_empty]
  · cases (PositionMap.empty_at p).symm.trans entry
  · cases (PositionMap.empty_at p).symm.trans entry

theorem Represents.link (h : g.Represents E) (p q : Position) :
    (g.link p q).Represents (insert (p, q) E) where
  edge_iff a b := by rw [edge_link, h.edge_iff, Finset.mem_insert, Prod.mk.injEq]
  mirrored := h.mirrored.link p q
  precedents_trimmed := h.precedents_trimmed.link q p
  dependents_trimmed := h.dependents_trimmed.link p q

theorem Represents.linkListed (listed : List Position) (h : g.Represents E) (p : Position) :
    (g.linkListed p listed).Represents (E ∪ listed.toFinset.image fun q => (q, p)) := by
  induction listed generalizing g E with
  | nil => simpa [linkListed] using h
  | cons q listed ih =>
      have grown : E ∪ (q :: listed).toFinset.image (fun q => (q, p)) =
          insert (q, p) E ∪ listed.toFinset.image fun q => (q, p) := by
        rw [List.toFinset_cons, Finset.image_insert, Finset.union_insert, Finset.insert_union]
      rw [grown]
      exact ih (h.link q p)

theorem Represents.removeListed (h : g.Represents E) {p : Position} {listed : List Position}
    (leave : listed.Perm (g.precedents.of p).toList) :
    (g.removeListed p listed).Represents (E.filter fun e => e.2 ≠ p) where
  edge_iff a b := by
    show (g.removePrecedents p).Edge a b ↔ _
    rw [edge_removePrecedents, h.edge_iff, Finset.mem_filter]
  mirrored := h.mirrored.removeListed fun _ => leave.mem_iff.trans Std.ExtTreeSet.mem_toList
  precedents_trimmed := h.precedents_trimmed.erase p
  dependents_trimmed := Neighbours.Trimmed.foldl_unlink listed h.dependents_trimmed p

theorem Represents.leads {edit : EdgeEdit} (h : g.Represents E) (leads : edit.Leads g g') :
    g'.Represents (edit.edges E) := by
  cases leads with
  | add _ p q => exact h.link p q
  | set _ p ps leave enter =>
      have members := List.toFinset_eq_of_perm _ _ enter
      show Represents _ (_ ∪ _)
      rw [← members]
      exact (h.removeListed leave).linkListed _ p
  | remove _ p leave => exact h.removeListed leave
  | clear => exact represents_empty

theorem BuiltBy.represents {edits : List EdgeEdit} (built : BuiltBy edits g) :
    g.Represents (edgesAfter edits) := by
  induction built with
  | empty => exact represents_empty
  | edit _ leads ih =>
      unfold edgesAfter
      rw [List.foldl_append]
      exact ih.leads leads

theorem Represents.unique (h : g.Represents E) (h' : g'.Represents E) : g = g' := by
  have precedents : g.precedents = g'.precedents :=
    h.precedents_trimmed.ext h'.precedents_trimmed fun q p => (h.edge_iff p q).trans (h'.edge_iff p q).symm
  have dependents : g.dependents = g'.dependents := by
    refine h.dependents_trimmed.ext h'.dependents_trimmed fun p q => ?_
    rw [← h.mirrored p q, ← h'.mirrored p q, h.edge_iff, h'.edge_iff]
  cases g
  cases g'
  obtain rfl := precedents
  obtain rfl := dependents
  rfl

theorem exists_leads (edit : EdgeEdit) (g : Graph) : ∃ g', edit.Leads g g' := by
  cases edit with
  | add p q => exact ⟨g.link p q, .add g p q⟩
  | set p ps => exact ⟨g.setPrecedents p ps, .set g p ps .rfl .rfl⟩
  | remove p => exact ⟨g.removePrecedents p, .remove g p .rfl⟩
  | clear => exact ⟨.empty, .clear g⟩

theorem exists_builtBy (edits : List EdgeEdit) : ∃ g, BuiltBy edits g := by
  induction edits using List.reverseRecOn with
  | nil => exact ⟨_, .empty⟩
  | append_singleton edits edit ih =>
      obtain ⟨g, built⟩ := ih
      obtain ⟨g', leads⟩ := exists_leads edit g
      exact ⟨g', .edit built leads⟩

/-! ## What a graph says about its edges -/

theorem Represents.isConsistent (h : g.Represents E) : g.isConsistent = true := by
  unfold Graph.isConsistent
  rw [h.precedents_trimmed.reversedIn fun q p edge => (h.mirrored p q).1 edge,
    h.dependents_trimmed.reversedIn fun p q mem => (h.mirrored p q).2 mem]
  rfl

theorem Represents.isEmpty_iff (h : g.Represents E) : g.isEmpty = true ↔ E = ∅ := by
  unfold Graph.isEmpty
  rw [h.precedents_trimmed.isEmpty_iff, Finset.eq_empty_iff_forall_notMem]
  constructor
  · exact fun none e mem => none e.2 e.1 ((h.edge_iff e.1 e.2).2 mem)
  · exact fun none q p edge => none (p, q) ((h.edge_iff p q).1 edge)

theorem Represents.edgeCount_eq (h : g.Represents E) : g.edgeCount = E.card := by
  have same : E = g.precedents.pairs.toFinset := by
    ext ⟨p, q⟩
    rw [List.mem_toFinset, Neighbours.mem_pairs h.precedents_trimmed]
    exact (h.edge_iff p q).symm
  rw [edgeCount, Neighbours.count_eq, same, List.toFinset_card_of_nodup (Neighbours.nodup_pairs _)]

/-! ## Answers -/

structure AnswersAlike (g g' : Graph) : Prop where
  levels : ∀ cells (o : g.LevelOrders cells) (o' : g'.LevelOrders cells),
    ∃ layers, levelsBy o = some layers ∧ levelsBy o' = some layers
  topologicalOrder : ∀ cells (o : g.LevelOrders cells) (o' : g'.LevelOrders cells),
    ∃ order, topologicalOrderBy o = some order ∧ topologicalOrderBy o' = some order
  transitiveDependents : ∀ roots (o : g.dependents.Listing) (o' : g'.dependents.Listing),
    g.transitiveDependentsBy o roots = g'.transitiveDependentsBy o' roots
  wouldCreateCycle : ∀ p ps (o : g.dependents.Listing) (o' : g'.dependents.Listing),
    g.wouldCreateCycleBy o p ps = g'.wouldCreateCycleBy o' p ps
  hasCircularReference : ∀ p (o : g.precedents.Listing) (o' : g'.precedents.Listing),
    g.hasCircularReferenceBy o p = g'.hasCircularReferenceBy o' p

theorem Mirrored.answersAlike (h : g.Mirrored) : g.AnswersAlike g where
  levels cells o o' := ⟨g.levels cells, h.levelsBy_eq o, h.levelsBy_eq o'⟩
  topologicalOrder cells o o' := by
    refine ⟨g.topologicalOrder cells, ?_, ?_⟩
    · rw [topologicalOrderBy, h.levelsBy_eq]
      rfl
    · rw [topologicalOrderBy, h.levelsBy_eq]
      rfl
  transitiveDependents roots o o' := by rw [transitiveDependentsBy_eq, transitiveDependentsBy_eq]
  wouldCreateCycle p ps o o' := by rw [wouldCreateCycleBy_eq, wouldCreateCycleBy_eq]
  hasCircularReference p o o' := by rw [hasCircularReferenceBy_eq, hasCircularReferenceBy_eq]

/-- A graph is its set of edges. Edits lead to one graph whatever order their loops run in. It is
consistent, its two maps are the two projections of the edges that the edits leave, and it counts them;
and any other edits that leave the same edges lead to a graph that answers alike. -/
theorem determined_by_edges (edits : List EdgeEdit) :
    (∃ g, ∀ g', BuiltBy edits g' ↔ g' = g) ∧
    ∀ g, BuiltBy edits g →
      g.isConsistent = true ∧
      (∀ (o : g.precedents.Listing) (q : Position),
        (o.list q).Nodup ∧ ∀ p, p ∈ o.list q ↔ (p, q) ∈ edgesAfter edits) ∧
      (∀ (o : g.dependents.Listing) (p : Position),
        (o.list p).Nodup ∧ ∀ q, q ∈ o.list p ↔ (p, q) ∈ edgesAfter edits) ∧
      g.edgeCount = (edgesAfter edits).card ∧
      (g.isEmpty = true ↔ edgesAfter edits = ∅) ∧
      ∀ edits' g', edgesAfter edits' = edgesAfter edits → BuiltBy edits' g' → g.AnswersAlike g' := by
  refine ⟨?_, fun g built => ?_⟩
  · obtain ⟨g, built⟩ := exists_builtBy edits
    refine ⟨g, fun g' => ⟨fun built' => built'.represents.unique built.represents, ?_⟩⟩
    rintro rfl
    exact built
  · have h := built.represents
    refine ⟨h.isConsistent, fun o q => ⟨?_, fun p => ?_⟩, fun o p => ⟨?_, fun q => ?_⟩, h.edgeCount_eq,
      h.isEmpty_iff, fun edits' g' same built' => ?_⟩
    · exact (o.perm q).nodup_iff.2 (PositionSet.nodup_toList _)
    · exact o.mem_list.trans (h.edge_iff p q)
    · exact (o.perm p).nodup_iff.2 (PositionSet.nodup_toList _)
    · rw [o.mem_list, ← h.mirrored p q, h.edge_iff]
    · have h' := built'.represents
      rw [same] at h'
      obtain rfl := h.unique h'
      exact h.mirrored.answersAlike

def circleEdits : List EdgeEdit :=
  [.add ⟨0, 0⟩ ⟨0, 1⟩, .add ⟨0, 1⟩ ⟨0, 1⟩, .add ⟨0, 1⟩ ⟨0, 0⟩]

def circleEditsBackward : List EdgeEdit :=
  [.set ⟨0, 0⟩ {⟨0, 2⟩}, .set ⟨0, 1⟩ {⟨0, 1⟩, ⟨0, 0⟩}, .remove ⟨0, 0⟩, .add ⟨0, 1⟩ ⟨0, 0⟩]

theorem circle_determined :
    edgesAfter circleEditsBackward = edgesAfter circleEdits ∧
    ∃ g g', BuiltBy circleEdits g ∧ BuiltBy circleEditsBackward g' ∧ g.isConsistent = true ∧
      g.edgeCount = 3 ∧ g.isEmpty = false ∧ g.AnswersAlike g' := by
  have same : edgesAfter circleEditsBackward = edgesAfter circleEdits := by decide
  obtain ⟨g, built⟩ := exists_builtBy circleEdits
  obtain ⟨g', built'⟩ := exists_builtBy circleEditsBackward
  obtain ⟨consistent, _, _, count, empty, alike⟩ := (determined_by_edges circleEdits).2 g built
  refine ⟨same, g, g', built, built', consistent, count.trans (by decide), ?_,
    alike circleEditsBackward g' same built'⟩
  rw [← Bool.not_eq_true, empty]
  decide

end Graph

end Spreadsheet
