import Spreadsheet.Proofs.Cell.Listing
import Spreadsheet.Proofs.Sheet.InWords

namespace Spreadsheet.RowStore
variable {s s' : RowStore} {edit : LineEdit} {p : Position} {c : Cell} {axis : Axis} {k : Nat}

def flat (s : RowStore) : CellStore := .ofList s.toList

theorem flat_at (s : RowStore) (p : Position) : s.flat[p]? = s.cell? p := by
  refine Option.ext fun c => ?_
  rw [← mem_toList]
  exact ⟨OrderedMap.mem_of_ofList_at,
    OrderedMap.ofList_at_of_mem (s.ordered_toList.imp OrderedMap.ne_of_before)⟩

theorem flat_toList (s : RowStore) : s.flat.toList = s.toList := OrderedMap.toList_ofList s.ordered_toList

theorem flat_put (s : RowStore) (p : Position) (c : Cell) : (s.put p c).flat = s.flat.insert p c := by
  refine Std.ExtTreeMap.ext_getElem? fun q => ?_
  rw [OrderedMap.insert_at, flat_at, flat_at, cell?_put]

theorem flat_remove (s : RowStore) (p : Position) : (s.remove p).flat = s.flat.erase p := by
  refine Std.ExtTreeMap.ext_getElem? fun q => ?_
  rw [OrderedMap.erase_at, flat_at, flat_at, cell?_remove]

theorem flat_updateAll (s : RowStore) (f : Position → Cell → Cell) :
    (s.updateAll f).flat = s.flat.map f := by
  refine Std.ExtTreeMap.ext_getElem? fun q => ?_
  rw [Std.ExtTreeMap.getElem?_map, flat_at, flat_at]
  unfold cell? updateAll
  rw [Std.ExtTreeMap.getElem?_map]
  cases s.rows[q.row]? with
  | none => rfl
  | some row =>
      rw [Option.map_some, Option.bind_some, Option.bind_some, Std.ExtTreeMap.getElem?_map]

theorem size_eq (s : RowStore) : s.size = s.flat.size := by
  rw [← Std.ExtTreeMap.length_toList, flat_toList, size_eq_length]

theorem Pruned.isEmpty_eq (pruned : s.Pruned) : s.isEmpty = s.flat.isEmpty := by
  rw [Bool.eq_iff_iff, pruned.isEmpty_iff, Std.ExtTreeMap.isEmpty_iff]
  constructor
  · intro none
    refine Std.ExtTreeMap.ext_getElem? fun p => Option.eq_none_iff_forall_ne_some.2 fun c cell => ?_
    exact none.subset ⟨c, (flat_at s p).symm.trans cell⟩
  · intro none
    refine Set.eq_empty_iff_forall_notMem.2 fun p ⟨c, cell⟩ => ?_
    rw [← flat_at, none] at cell
    cases cell

theorem MovedTo.flat_eq (moved : s.MovedTo edit s') : s'.flat = s.flat.relocate edit.shift := by
  refine Std.ExtTreeMap.ext_getElem? fun q => Option.ext fun c => ?_
  rw [CellStore.relocate_at_iff fun _ _ _ => LineEdit.shift_injective, flat_at, moved]
  simp only [flat_at]

theorem roomFor_of_insertLineInWords {cells : CellStore}
    (inserted : s.flat.insertLineInWords axis k = some cells) : s.RoomFor (.insert axis k) := by
  intro _ p c cell (behind : k ≤ p.along axis)
  obtain ⟨entries, all, _⟩ := Option.bind_eq_some_iff.1 inserted
  obtain ⟨entry, goes⟩ := exists_of_mapM_some all (p, c)
    (OrderedMap.mem_toList_iff.2 ((flat_at s p).trans cell))
  obtain ⟨_, moves, _⟩ := Option.bind_eq_some_iff.1 goes
  obtain ⟨i, sum, _⟩ := Option.map_eq_some_iff.1 moves
  rw [openedAtInWords, if_neg (Nat.not_lt.2 behind), wordSum_eq_some] at sum
  exact sum.1

theorem Pruned.insertLine_eq (pruned : s.Pruned) (axis : Axis) (k : Nat) :
    (s.insertLine axis k).map flat = s.flat.insertLineInWords axis k := by
  by_cases room : s.RoomFor (.insert axis k)
  · obtain ⟨s', inserted, _, moved⟩ := insertLine_at pruned room
    have inserted' : s.flat.insertLineInWords axis k = some (s.flat.insertLine axis k) :=
      CellStore.insertLineInWords_eq fun p c cell => room rfl p c ((flat_at s p).symm.trans cell)
    rw [inserted, inserted']
    exact congrArg some moved.flat_eq
  · have stuck : s.insertLine axis k = none := by
      refine Option.eq_none_iff_forall_ne_some.2 fun s' inserted => ?_
      have edited : s.editLine (.insert axis k) = some s' := inserted
      exact room (roomFor_of_editLine edited)
    have stuck' : s.flat.insertLineInWords axis k = none :=
      Option.eq_none_iff_forall_ne_some.2 fun cells inserted => room (roomFor_of_insertLineInWords inserted)
    rw [stuck, stuck']
    rfl

theorem Pruned.deleteLine_eq (pruned : s.Pruned) (axis : Axis) (k : Nat) :
    (s.deleteLine axis k).map (fun (s', _) => s'.flat) = s.flat.deleteLineInWords axis k := by
  obtain ⟨s', removed, deleted, _, moved, _⟩ := deleteLine_at pruned axis k
  rw [deleted, CellStore.deleteLineInWords_eq]
  exact congrArg some moved.flat_eq

end Spreadsheet.RowStore
