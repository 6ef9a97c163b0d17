import Spreadsheet.Graph.AnyOrder
import Spreadsheet.Proofs.Grid.Maps

namespace Spreadsheet

namespace Neighbours

theorem of_insert (n : Neighbours) (p q : Position) (set : PositionSet) :
    Neighbours.of (n.insert p set) q = if q = p then set else n.of q := by
  unfold Neighbours.of
  rw [OrderedMap.insert_at]
  split <;> rfl

theorem of_erase (n : Neighbours) (p q : Position) :
    Neighbours.of (n.erase p) q = if q = p then ∅ else n.of q := by
  unfold Neighbours.of
  rw [OrderedMap.erase_at]
  split <;> rfl

theorem mem_link {n : Neighbours} {p q a b : Position} :
    b ∈ (n.link p q).of a ↔ (a = p ∧ b = q) ∨ b ∈ n.of a := by
  unfold link
  rw [of_insert]
  by_cases same : a = p
  · subst same
    rw [if_pos rfl, PositionSet.mem_insert_iff]
    simp
  · rw [if_neg same]
    simp [same]

theorem mem_unlink {n : Neighbours} {p q a b : Position} :
    b ∈ (n.unlink p q).of a ↔ b ∈ n.of a ∧ ¬ (a = p ∧ b = q) := by
  unfold unlink
  cases entry : n[p]? with
  | none =>
      by_cases same : a = p
      · have none : n.of a = ∅ := by
          rw [same]
          unfold Neighbours.of
          rw [entry]
          rfl
        simp [none]
      · simp [same]
  | some set =>
      have whole : n.of p = set := by
        unfold Neighbours.of
        rw [entry]
        rfl
      dsimp only
      by_cases same : a = p
      · subst same
        by_cases last : (set.erase q).isEmpty
        · have gone := (PositionSet.isEmpty_iff _).1 last b
          rw [PositionSet.mem_erase_iff] at gone
          rw [if_pos last, of_erase, if_pos rfl, whole]
          simp only [PositionSet.not_mem_empty, false_iff, not_and, Classical.not_not, true_and]
          intro mem
          exact Classical.byContradiction fun differ => gone ⟨differ, mem⟩
        · rw [if_neg last, of_insert, if_pos rfl, PositionSet.mem_erase_iff, whole]
          simp [and_comm]
      · by_cases last : (set.erase q).isEmpty
        · rw [if_pos last, of_erase, if_neg same]
          simp [same]
        · rw [if_neg last, of_insert, if_neg same]
          simp [same]

theorem mem_foldl_unlink (qs : List Position) {n : Neighbours} {p a b : Position} :
    b ∈ (qs.foldl (fun n q => n.unlink q p) n).of a ↔ b ∈ n.of a ∧ ¬ (a ∈ qs ∧ b = p) := by
  induction qs generalizing n with
  | nil => simp
  | cons q qs ih =>
      rw [List.foldl_cons, ih, mem_unlink, List.mem_cons]
      constructor
      · rintro ⟨⟨mem, other⟩, later⟩
        refine ⟨mem, ?_⟩
        rintro ⟨rfl | among, same⟩
        · exact other ⟨rfl, same⟩
        · exact later ⟨among, same⟩
      · rintro ⟨mem, other⟩
        exact ⟨⟨mem, fun same => other ⟨.inl same.1, same.2⟩⟩,
          fun later => other ⟨.inr later.1, later.2⟩⟩

end Neighbours

namespace Graph

def Mirrored (g : Graph) : Prop := ∀ p q, g.Edge p q ↔ q ∈ g.dependents.of p

instance (g : Graph) (p q : Position) : Decidable (g.Edge p q) :=
  inferInstanceAs (Decidable (p ∈ g.precedents.of q))

theorem not_edge_empty (p q : Position) : ¬ Graph.empty.Edge p q := PositionSet.not_mem_empty p

theorem mirrored_empty : Graph.empty.Mirrored := by
  intro p q
  constructor
  · exact fun edge => absurd edge (not_edge_empty p q)
  · exact fun mem => absurd mem (PositionSet.not_mem_empty q)

theorem edge_link {g : Graph} {p q a b : Position} :
    (g.link p q).Edge a b ↔ (a = p ∧ b = q) ∨ g.Edge a b := by
  unfold Edge link
  rw [Neighbours.mem_link, and_comm]

theorem Mirrored.link {g : Graph} (h : g.Mirrored) (p q : Position) : (g.link p q).Mirrored := by
  intro a b
  rw [edge_link, h a b]
  exact Neighbours.mem_link.symm

theorem edge_removePrecedents {g : Graph} {p a b : Position} :
    (g.removePrecedents p).Edge a b ↔ g.Edge a b ∧ b ≠ p := by
  unfold Edge removePrecedents
  dsimp only
  rw [Neighbours.of_erase]
  by_cases same : b = p
  · rw [if_pos same]
    simp [same]
  · rw [if_neg same]
    simp [same]

theorem Mirrored.removeListed {g : Graph} (h : g.Mirrored) {p : Position} {listed : List Position}
    (whole : ∀ a, a ∈ listed ↔ a ∈ g.precedents.of p) : (g.removeListed p listed).Mirrored := by
  intro a b
  show (g.removePrecedents p).Edge a b ↔ _
  rw [edge_removePrecedents]
  unfold Graph.removeListed
  dsimp only
  rw [Neighbours.mem_foldl_unlink, whole, ← h a b]
  constructor
  · rintro ⟨edge, other⟩
    exact ⟨edge, fun into => other into.2⟩
  · rintro ⟨edge, other⟩
    refine ⟨edge, fun same => other ⟨?_, same⟩⟩
    rw [← same]
    exact edge

theorem Mirrored.removePrecedents {g : Graph} (h : g.Mirrored) (p : Position) :
    (g.removePrecedents p).Mirrored := h.removeListed fun _ => Std.ExtTreeSet.mem_toList

theorem edge_foldl_link (ps : List Position) {g : Graph} {p a b : Position} :
    (ps.foldl (fun g q => g.link q p) g).Edge a b ↔ (a ∈ ps ∧ b = p) ∨ g.Edge a b := by
  induction ps generalizing g with
  | nil => simp
  | cons q ps ih =>
      rw [List.foldl_cons, ih, edge_link, List.mem_cons]
      constructor
      · rintro (⟨among, same⟩ | ⟨rfl, same⟩ | edge)
        · exact .inl ⟨.inr among, same⟩
        · exact .inl ⟨.inl rfl, same⟩
        · exact .inr edge
      · rintro (⟨rfl | among, same⟩ | edge)
        · exact .inr (.inl ⟨rfl, same⟩)
        · exact .inl ⟨among, same⟩
        · exact .inr (.inr edge)

theorem Mirrored.foldl_link (ps : List Position) {g : Graph} (h : g.Mirrored) (p : Position) :
    (ps.foldl (fun g q => g.link q p) g).Mirrored := by
  induction ps generalizing g with
  | nil => exact h
  | cons q ps ih => exact ih (h.link q p)

theorem edge_setPrecedents {g : Graph} {p a b : Position} {ps : PositionSet} :
    (g.setPrecedents p ps).Edge a b ↔ (b = p ∧ a ∈ ps) ∨ (b ≠ p ∧ g.Edge a b) := by
  unfold setPrecedents
  rw [edge_foldl_link, edge_removePrecedents, Std.ExtTreeSet.mem_toList, and_comm (a := a ∈ ps),
    and_comm (a := g.Edge a b)]

theorem Mirrored.setPrecedents {g : Graph} (h : g.Mirrored) (p : Position) (ps : PositionSet) :
    (g.setPrecedents p ps).Mirrored :=
  Mirrored.foldl_link _ (h.removePrecedents p) p

theorem precedents_setPrecedents (g : Graph) (p q : Position) (ps : PositionSet) :
    (g.setPrecedents p ps).precedents.of q = if q = p then ps else g.precedents.of q := by
  apply Std.ExtTreeSet.ext_mem
  intro a
  have edges : (g.setPrecedents p ps).Edge a q ↔ _ := edge_setPrecedents
  unfold Edge at edges
  rw [edges]
  by_cases same : q = p
  · rw [if_pos same]
    simp [same]
  · rw [if_neg same]
    simp [same]

theorem precedents_removePrecedents (g : Graph) (p q : Position) :
    (g.removePrecedents p).precedents.of q = if q = p then ∅ else g.precedents.of q :=
  Neighbours.of_erase _ _ _

end Graph

end Spreadsheet
