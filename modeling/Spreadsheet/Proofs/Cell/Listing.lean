import Mathlib.Data.Set.Card
import Spreadsheet.Proofs.Cell.RowStore

namespace Spreadsheet

structure Lists {κ α : Type} [Ord κ] (entries : List (κ × α)) (f : κ → Option α) : Prop where
  ordered : entries.Pairwise fun a b => compare a.1 b.1 = .lt
  mem_iff : ∀ k x, (k, x) ∈ entries ↔ f k = some x

theorem Lists.nil {κ α : Type} [Ord κ] : Lists ([] : List (κ × α)) fun _ => none :=
  ⟨.nil, fun _ _ => by simp⟩

theorem OrderedMap.lists_toList {κ α : Type} [Ord κ] [Std.LawfulEqOrd κ] [Std.TransOrd κ]
    (m : Std.ExtTreeMap κ α) : Lists m.toList fun k => m[k]? :=
  ⟨Std.ExtTreeMap.ordered_keys_toList, fun _ _ => mem_toList_iff⟩

abbrev CellMap := Position → Option Cell

namespace CellMap

def support (m : CellMap) : Set Position := {p | ∃ c, m p = some c}

def lines (m : CellMap) (axis : Axis) : Set Nat := (fun p => p.along axis) '' m.support

end CellMap

structure Bounds.Enclose (b : Bounds) (m : CellMap) : Prop where
  minRow : IsLeast (m.lines .row) b.minRow
  minColumn : IsLeast (m.lines .column) b.minColumn
  maxRow : IsGreatest (m.lines .row) b.maxRow
  maxColumn : IsGreatest (m.lines .column) b.maxColumn

/-! ## Least and greatest keys -/

section
variable {α : Type} {m : LineMap α} {k d : Nat} {l : List Nat} {S : Set Nat}

theorem LineMap.minKey?_eq_some_iff : m.minKey? = some k ↔ IsLeast {i | ∃ a, m[i]? = some a} k := by
  simp only [Std.ExtTreeMap.minKey?_eq_some_iff_mem_and_forall, Std.ExtTreeMap.mem_iff_isSome_getElem?,
    Option.isSome_iff_exists, Nat.isLE_compare]
  rfl

theorem LineMap.maxKey?_eq_some_iff : m.maxKey? = some k ↔ IsGreatest {i | ∃ a, m[i]? = some a} k := by
  simp only [Std.ExtTreeMap.maxKey?_eq_some_iff_mem_and_forall, Std.ExtTreeMap.mem_iff_isSome_getElem?,
    Option.isSome_iff_exists, Nat.isLE_compare]
  rfl

theorem isLeast_foldl_min (among : ∀ x ∈ l, x ∈ S) (cover : ∀ x ∈ S, ∃ y ∈ l, y ≤ x)
    (below : ∀ x ∈ l, x ≤ d) (some : S.Nonempty) : IsLeast S (l.foldl min d) := by
  obtain ⟨x, mem⟩ := some
  obtain ⟨y, mem, _⟩ := cover x mem
  obtain ⟨least, found⟩ := Option.isSome_iff_exists.1 (List.isSome_min?_of_mem mem)
  obtain ⟨mem, le⟩ := List.min?_eq_some_iff.1 found
  rw [List.foldl_min, found, Option.getD_some, min_eq_right (below least mem)]
  refine ⟨among least mem, fun x mem => ?_⟩
  obtain ⟨y, mem, under⟩ := cover x mem
  exact (le y mem).trans under

theorem isGreatest_foldl_max (among : ∀ x ∈ l, x ∈ S) (cover : ∀ x ∈ S, ∃ y ∈ l, x ≤ y)
    (some : S.Nonempty) : IsGreatest S (l.foldl max 0) := by
  obtain ⟨x, mem⟩ := some
  obtain ⟨y, mem, _⟩ := cover x mem
  obtain ⟨greatest, found⟩ := Option.isSome_iff_exists.1 (List.isSome_max?_of_mem mem)
  obtain ⟨mem, le⟩ := List.max?_eq_some_iff.1 found
  rw [List.foldl_max, found, Option.getD_some, max_eq_right (Nat.zero_le greatest)]
  refine ⟨among greatest mem, fun x mem => ?_⟩
  obtain ⟨y, mem, above⟩ := cover x mem
  exact above.trans (le y mem)

end

namespace RowStore
variable {s s' : RowStore} {p : Position} {c : Cell} {axis : Axis} {k : Nat}

/-! ## Lists of cells -/

theorem mem_toList : (p, c) ∈ s.toList ↔ s.cell? p = some c := by
  unfold toList
  rw [List.mem_flatMap, cell?_eq_some_iff]
  constructor
  · rintro ⟨⟨i, row⟩, listed, mem⟩
    obtain ⟨⟨j, c⟩, cell, same⟩ := List.mem_map.1 mem
    obtain ⟨rfl, rfl⟩ := Prod.mk.inj same
    exact ⟨row, OrderedMap.mem_toList_iff.1 listed, OrderedMap.mem_toList_iff.1 cell⟩
  · rintro ⟨row, stands, cell⟩
    exact ⟨(p.row, row), OrderedMap.mem_toList_iff.2 stands,
      List.mem_map.2 ⟨(p.column, c), OrderedMap.mem_toList_iff.2 cell, rfl⟩⟩

theorem ordered_toList (s : RowStore) : s.toList.Pairwise fun a b => compare a.1 b.1 = .lt := by
  unfold toList
  refine List.pairwise_flatMap.2 ⟨fun ⟨i, row⟩ _ => ?_, ?_⟩
  · refine List.pairwise_map.2 (Std.ExtTreeMap.ordered_keys_toList.imp fun before => ?_)
    exact Position.compare_eq_lt_iff.2 (.inr ⟨rfl, Nat.compare_eq_lt.1 before⟩)
  · refine Std.ExtTreeMap.ordered_keys_toList.imp fun before a mem b mem' => ?_
    obtain ⟨_, _, rfl⟩ := List.mem_map.1 mem
    obtain ⟨_, _, rfl⟩ := List.mem_map.1 mem'
    exact Position.compare_eq_lt_iff.2 (.inl (Nat.compare_eq_lt.1 before))

theorem lists_toList (s : RowStore) : Lists s.toList s.cell? :=
  ⟨s.ordered_toList, fun _ _ => mem_toList⟩

theorem lists_row (s : RowStore) (i : Nat) : Lists (s.row i).toList fun j => s.cell? ⟨i, j⟩ := by
  have listed := OrderedMap.lists_toList (s.row i)
  simp only [row_at] at listed
  exact listed

theorem ordered_deleteLine {removed : List (Nat × Cell)} (deleted : s.deleteLine axis k = some (s', removed)) :
    removed.Pairwise fun a b => compare a.1 b.1 = .lt := by
  cases axis with
  | row =>
      obtain ⟨⟨rows, line⟩, _, same⟩ := Option.map_eq_some_iff.1 deleted
      obtain ⟨_, rfl⟩ := Prod.mk.inj same
      cases line with
      | none => exact .nil
      | some line => exact Std.ExtTreeMap.ordered_keys_toList
  | column =>
      obtain ⟨closed, _, same⟩ := Option.map_eq_some_iff.1 deleted
      obtain ⟨_, rfl⟩ := Prod.mk.inj same
      refine List.Pairwise.filterMap _ ?_ Std.ExtTreeMap.ordered_keys_toList
      rintro ⟨i, _⟩ ⟨j, _⟩ before a here b there
      obtain ⟨_, _, rfl⟩ := Option.map_eq_some_iff.1 here
      obtain ⟨_, _, rfl⟩ := Option.map_eq_some_iff.1 there
      exact before

/-! ## Numbers of cells -/

theorem size_eq_length (s : RowStore) : s.size = s.toList.length :=
  OrderedMap.foldl_eq_length s.rows fun e => by rw [List.length_map, Std.ExtTreeMap.length_toList]

theorem encard_support (s : RowStore) : (CellMap.support s.cell?).encard = s.size := by
  have listed : CellMap.support s.cell? = ↑(s.toList.map (·.1)).toFinset := by
    ext p
    simp only [CellMap.support, Set.mem_ofPred_eq, List.coe_toFinset, List.mem_map, Prod.exists,
      exists_and_right, exists_eq_right, mem_toList]
  have once : (s.toList.map (·.1)).Nodup :=
    List.pairwise_map.2 (s.ordered_toList.imp OrderedMap.ne_of_before)
  rw [listed, Set.encard_coe_eq_coe_finsetCard, List.toFinset_card_of_nodup once, List.length_map,
    size_eq_length]

theorem mem_lines {i : Nat} :
    i ∈ CellMap.lines s.cell? axis ↔ ∃ p c, s.cell? p = some c ∧ p.along axis = i :=
  ⟨fun ⟨p, ⟨c, cell⟩, here⟩ => ⟨p, c, cell, here⟩, fun ⟨p, c, cell, here⟩ => ⟨p, ⟨c, cell⟩, here⟩⟩

/-! ## Bounds -/

theorem Pruned.mem_rows_iff (pruned : s.Pruned) {i : Nat} :
    i ∈ CellMap.lines s.cell? .row ↔ ∃ row, s.rows[i]? = some row := by
  rw [mem_lines]
  constructor
  · rintro ⟨p, c, cell, rfl⟩
    obtain ⟨row, stands, _⟩ := cell?_eq_some_iff.1 cell
    exact ⟨row, stands⟩
  · rintro ⟨row, stands⟩
    obtain ⟨j, c, cell⟩ := pruned.exists_cell stands
    exact ⟨⟨i, j⟩, c, cell, rfl⟩

theorem mem_columns_iff {j : Nat} : j ∈ CellMap.lines s.cell? .column ↔
    ∃ row, (∃ i : Nat, s.rows[i]? = some row) ∧ ∃ c, row[j]? = some c := by
  rw [mem_lines]
  constructor
  · rintro ⟨p, c, cell, rfl⟩
    obtain ⟨row, stands, cell⟩ := cell?_eq_some_iff.1 cell
    exact ⟨row, ⟨p.row, stands⟩, c, cell⟩
  · rintro ⟨row, ⟨i, stands⟩, c, cell⟩
    exact ⟨⟨i, j⟩, c, cell?_eq_some_iff.2 ⟨row, stands, cell⟩, rfl⟩

theorem mem_lineMaps {row : LineMap Cell} :
    row ∈ s.rows.toList.map (·.2) ↔ ∃ i : Nat, s.rows[i]? = some row := by
  simp only [List.mem_map, Prod.exists, exists_eq_right, OrderedMap.mem_toList_iff]

theorem Pruned.isEmpty_iff (pruned : s.Pruned) : s.isEmpty = true ↔ CellMap.support s.cell? = ∅ := by
  rw [isEmpty, Std.ExtTreeMap.isEmpty_iff, Set.eq_empty_iff_forall_notMem]
  constructor
  · rintro none p ⟨c, cell⟩
    rw [cell?, none] at cell
    cases cell
  · intro none
    by_contra kept
    obtain ⟨i, row, stands⟩ := LineMap.exists_of_ne_empty kept
    obtain ⟨j, c, cell⟩ := pruned.exists_cell stands
    exact none ⟨i, j⟩ ⟨c, cell⟩

theorem Pruned.exists_column (pruned : s.Pruned) (kept : s.rows ≠ ∅) :
    (CellMap.lines s.cell? .column).Nonempty := by
  obtain ⟨i, row, stands⟩ := LineMap.exists_of_ne_empty kept
  obtain ⟨j, c, cell⟩ := LineMap.exists_of_ne_empty (pruned i row stands)
  exact ⟨j, mem_columns_iff.2 ⟨row, ⟨i, stands⟩, c, cell⟩⟩

theorem Pruned.isLeast_columns (pruned : s.Pruned) (kept : s.rows ≠ ∅)
    (narrow : ∀ j ∈ CellMap.lines s.cell? .column, j < columnWordBound) :
    IsLeast (CellMap.lines s.cell? .column)
      (((s.rows.toList.map (·.2)).filterMap (·.minKey?)).foldl min (columnWordBound - 1)) := by
  have listed : ∀ {j}, j ∈ (s.rows.toList.map (·.2)).filterMap (·.minKey?) ↔
      ∃ row, (∃ i : Nat, s.rows[i]? = some row) ∧ IsLeast {j | ∃ c, row[j]? = some c} j := by
    simp only [List.mem_filterMap, mem_lineMaps, LineMap.minKey?_eq_some_iff, implies_true]
  have among : ∀ j ∈ (s.rows.toList.map (·.2)).filterMap (·.minKey?), j ∈ CellMap.lines s.cell? .column := by
    intro j mem
    obtain ⟨row, stands, least⟩ := listed.1 mem
    exact mem_columns_iff.2 ⟨row, stands, least.1⟩
  refine isLeast_foldl_min among (fun j mem => ?_) (fun j mem => Nat.le_sub_one_of_lt (narrow j (among j mem)))
    (pruned.exists_column kept)
  obtain ⟨row, stands, c, cell⟩ := mem_columns_iff.1 mem
  obtain ⟨least, found⟩ := Option.isSome_iff_exists.1
    (Std.ExtTreeMap.isSome_minKey?_iff_ne_empty.2 (LineMap.ne_empty_of_some cell))
  have isLeast := LineMap.minKey?_eq_some_iff.1 found
  exact ⟨least, listed.2 ⟨row, stands, isLeast⟩, isLeast.2 ⟨c, cell⟩⟩

theorem Pruned.isGreatest_columns (pruned : s.Pruned) (kept : s.rows ≠ ∅) :
    IsGreatest (CellMap.lines s.cell? .column)
      (((s.rows.toList.map (·.2)).filterMap (·.maxKey?)).foldl max 0) := by
  have listed : ∀ {j}, j ∈ (s.rows.toList.map (·.2)).filterMap (·.maxKey?) ↔
      ∃ row, (∃ i : Nat, s.rows[i]? = some row) ∧ IsGreatest {j | ∃ c, row[j]? = some c} j := by
    simp only [List.mem_filterMap, mem_lineMaps, LineMap.maxKey?_eq_some_iff, implies_true]
  refine isGreatest_foldl_max (fun j mem => ?_) (fun j mem => ?_) (pruned.exists_column kept)
  · obtain ⟨row, stands, greatest⟩ := listed.1 mem
    exact mem_columns_iff.2 ⟨row, stands, greatest.1⟩
  · obtain ⟨row, stands, c, cell⟩ := mem_columns_iff.1 mem
    obtain ⟨greatest, found⟩ := Option.isSome_iff_exists.1
      (Std.ExtTreeMap.isSome_maxKey?_iff_ne_empty.2 (LineMap.ne_empty_of_some cell))
    have isGreatest := LineMap.maxKey?_eq_some_iff.1 found
    exact ⟨greatest, listed.2 ⟨row, stands, isGreatest⟩, isGreatest.2 ⟨c, cell⟩⟩

theorem Pruned.bounds_enclose (pruned : s.Pruned)
    (narrow : ∀ j ∈ CellMap.lines s.cell? .column, j < columnWordBound) {b : Bounds}
    (bounds : s.bounds = some b) : b.Enclose s.cell? := by
  have rows : CellMap.lines s.cell? .row = {i | ∃ row, s.rows[i]? = some row} :=
    Set.ext fun i => pruned.mem_rows_iff
  obtain ⟨first, least, bounds⟩ := Option.bind_eq_some_iff.1 bounds
  obtain ⟨last, greatest, bounds⟩ := Option.bind_eq_some_iff.1 bounds
  obtain rfl := Option.some.inj bounds
  have kept : s.rows ≠ ∅ := fun none => by
    rw [none, Std.ExtTreeMap.minKey?_empty] at least
    cases least
  rw [LineMap.minKey?_eq_some_iff, ← rows] at least
  rw [LineMap.maxKey?_eq_some_iff, ← rows] at greatest
  exact ⟨least, pruned.isLeast_columns kept narrow, greatest, pruned.isGreatest_columns kept⟩

theorem Pruned.bounds_eq_none_iff (pruned : s.Pruned) :
    s.bounds = none ↔ CellMap.support s.cell? = ∅ := by
  rw [← pruned.isEmpty_iff, isEmpty, Std.ExtTreeMap.isEmpty_iff]
  constructor
  · intro none
    by_contra kept
    obtain ⟨first, least⟩ := Option.isSome_iff_exists.1 (Std.ExtTreeMap.isSome_minKey?_iff_ne_empty.2 kept)
    obtain ⟨last, greatest⟩ := Option.isSome_iff_exists.1 (Std.ExtTreeMap.isSome_maxKey?_iff_ne_empty.2 kept)
    rw [bounds, least, greatest] at none
    cases none
  · intro empty
    rw [bounds, Std.ExtTreeMap.minKey?_eq_none_iff.2 empty]
    rfl

end RowStore

end Spreadsheet
