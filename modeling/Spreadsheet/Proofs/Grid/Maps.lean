import Spreadsheet.Grid.Position
import Spreadsheet.Proofs.Data.Maps

namespace Spreadsheet

namespace PositionMap
variable {α : Type}

theorem eq_or_of_insert_at {m : PositionMap α} {p q : Position} {x y : α}
    (found : (m.insert p x)[q]? = some y) : q = p ∧ y = x ∨ m[q]? = some y := by
  rw [OrderedMap.insert_at] at found
  split at found
  · rename_i same
    exact .inl ⟨same, (Option.some.inj found).symm⟩
  · exact .inr found

theorem empty_at (p : Position) : (∅ : PositionMap α)[p]? = none := rfl

theorem not_empty_at {p : Position} {x : α} : ¬ (∅ : PositionMap α)[p]? = some x := by
  intro found
  rw [empty_at] at found
  cases found

theorem mem_iff (m : PositionMap α) (p : Position) : p ∈ m ↔ ∃ x, m[p]? = some x := by
  rw [Std.ExtTreeMap.mem_iff_isSome_getElem?, Option.isSome_iff_exists]

theorem mem_keys_iff (m : PositionMap α) (p : Position) : p ∈ m.keys ↔ ∃ x, m[p]? = some x := by
  rw [Std.ExtTreeMap.mem_keys, mem_iff]

theorem contains_iff (m : PositionMap α) (p : Position) : m.contains p = true ↔ ∃ x, m[p]? = some x := by
  rw [Std.ExtTreeMap.contains_iff_mem, mem_iff]

theorem keys_nodup (m : PositionMap α) : m.keys.Nodup := Std.ExtTreeMap.nodup_keys

end PositionMap

namespace PositionSet

theorem mem_insert_iff (set : PositionSet) (p q : Position) : q ∈ set.insert p ↔ q = p ∨ q ∈ set := by
  rw [Std.ExtTreeSet.mem_insert, OrderedMap.compare_eq_eq, eq_comm]

theorem mem_erase_iff (set : PositionSet) (p q : Position) : q ∈ set.erase p ↔ q ≠ p ∧ q ∈ set := by
  rw [Std.ExtTreeSet.mem_erase, ne_eq, ne_eq, OrderedMap.compare_eq_eq, eq_comm]

theorem mem_ofList_iff (ps : List Position) (p : Position) :
    p ∈ (Std.ExtTreeSet.ofList ps : PositionSet) ↔ p ∈ ps := by
  rw [Std.ExtTreeSet.mem_ofList, List.contains_iff_mem]

theorem mem_insertMany_iff (set : PositionSet) (ps : List Position) (p : Position) :
    p ∈ set.insertMany ps ↔ p ∈ set ∨ p ∈ ps := by
  rw [Std.ExtTreeSet.mem_insertMany_list, List.contains_iff_mem]

theorem not_mem_empty (p : Position) : ¬ p ∈ (∅ : PositionSet) := Std.ExtTreeSet.not_mem_empty

theorem isEmpty_iff (set : PositionSet) : set.isEmpty = true ↔ ∀ p, ¬ p ∈ set := by
  rw [Std.ExtTreeSet.isEmpty_iff, Std.ExtTreeSet.eq_empty_iff_forall_not_mem]

theorem mem_filter_iff (set : PositionSet) (f : Position → Bool) (p : Position) :
    p ∈ set.filter f ↔ p ∈ set ∧ f p = true := by
  rw [← Std.ExtTreeSet.mem_toList, Std.ExtTreeSet.toList_filter, List.mem_filter,
    Std.ExtTreeSet.mem_toList]

theorem nodup_toList (set : PositionSet) : set.toList.Nodup :=
  Std.ExtTreeSet.distinct_toList.imp fun apart same => apart (OrderedMap.compare_eq_eq.2 same)

theorem contains_eq_false_iff (set : PositionSet) (p : Position) :
    set.contains p = false ↔ ¬ p ∈ set := by
  rw [← Std.ExtTreeSet.contains_iff_mem, Bool.not_eq_true]

end PositionSet

end Spreadsheet
