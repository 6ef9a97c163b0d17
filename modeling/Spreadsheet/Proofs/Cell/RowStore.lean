import Spreadsheet.Proofs.Cell.Lines

namespace Spreadsheet

namespace RowStore

def Pruned (s : RowStore) : Prop := ∀ (i : Nat) row, s.rows[i]? = some row → row ≠ ∅

inductive Built : RowStore → Prop
  | empty : Built {}
  | put {s : RowStore} (p : Position) (c : Cell) (built : s.Built) : Built (s.put p c)
  | remove {s : RowStore} (p : Position) (built : s.Built) : Built (s.remove p)
  | update {s : RowStore} (p : Position) (f : Cell → Cell) (built : s.Built) : Built (s.update p f)
  | updateAll {s : RowStore} (f : Position → Cell → Cell) (built : s.Built) : Built (s.updateAll f)
  | editLine {s s' : RowStore} (edit : LineEdit) (built : s.Built) (edited : s.editLine edit = some s') :
      Built s'

def HasRoom (s : RowStore) (axis : Axis) : Prop :=
  ∀ p c, s.cell? p = some c → p.along axis + 1 < axis.wordBound

def RoomFor (s : RowStore) (edit : LineEdit) : Prop :=
  edit.isInsert = true → ∀ p c, s.cell? p = some c →
    edit.index ≤ p.along edit.axis → p.along edit.axis + 1 < edit.axis.wordBound

variable {s s' : RowStore} {edit : LineEdit} {p q : Position} {c : Cell} {axis : Axis} {k : Nat}

theorem cell?_eq_some_iff :
    s.cell? p = some c ↔ ∃ row, s.rows[p.row]? = some row ∧ row[p.column]? = some c :=
  Option.bind_eq_some_iff

theorem Pruned.exists_cell (pruned : s.Pruned) {i : Nat} {row : LineMap Cell} (stands : s.rows[i]? = some row) :
    ∃ j c, s.cell? ⟨i, j⟩ = some c := by
  obtain ⟨j, c, cell⟩ := LineMap.exists_of_ne_empty (pruned i row stands)
  exact ⟨j, c, cell?_eq_some_iff.2 ⟨row, stands, cell⟩⟩

theorem row_of_cells (pruned : s.Pruned) (same : ∀ p c, s.cell? p = some c → s'.cell? p = some c)
    {i : Nat} {row : LineMap Cell} (stands : s.rows[i]? = some row) :
    ∃ row', s'.rows[i]? = some row' ∧ ∀ (j : Nat) c, row[j]? = some c → row'[j]? = some c := by
  obtain ⟨j, c, cell⟩ := pruned.exists_cell stands
  obtain ⟨row', stands', _⟩ := cell?_eq_some_iff.1 (same _ c cell)
  refine ⟨row', stands', fun j c cell => ?_⟩
  obtain ⟨row'', stands'', cell'⟩ :=
    cell?_eq_some_iff.1 (same ⟨i, j⟩ c (cell?_eq_some_iff.2 ⟨row, stands, cell⟩))
  obtain rfl := Option.some.inj (stands'.symm.trans stands'')
  exact cell'

theorem row_eq_of_cells (pruned : s.Pruned) (pruned' : s'.Pruned)
    (same : ∀ p c, s.cell? p = some c ↔ s'.cell? p = some c) {i : Nat} {row : LineMap Cell}
    (stands : s.rows[i]? = some row) : s'.rows[i]? = some row := by
  obtain ⟨row', stands', within⟩ := row_of_cells pruned (fun p c => (same p c).1) stands
  obtain ⟨row'', stands'', within'⟩ := row_of_cells pruned' (fun p c => (same p c).2) stands'
  obtain rfl := Option.some.inj (stands.symm.trans stands'')
  rw [stands', Option.some.injEq]
  exact Std.ExtTreeMap.ext_getElem? fun j => Option.ext fun c => ⟨within' j c, within j c⟩

theorem Pruned.ext (pruned : s.Pruned) (pruned' : s'.Pruned)
    (same : ∀ p c, s.cell? p = some c ↔ s'.cell? p = some c) : s = s' := by
  have rows : s.rows = s'.rows := Std.ExtTreeMap.ext_getElem? fun i => Option.ext fun row =>
    ⟨row_eq_of_cells pruned pruned' same, row_eq_of_cells pruned' pruned fun p c => (same p c).symm⟩
  obtain ⟨_⟩ := s
  obtain ⟨_⟩ := s'
  exact congrArg mk rows

/-! ## Single cells -/

theorem row_at (s : RowStore) (i j : Nat) : (s.row i)[j]? = s.cell? ⟨i, j⟩ := by
  unfold row cell?
  cases s.rows[i]? <;> rfl

theorem cell?_put (s : RowStore) (p q : Position) (c : Cell) :
    (s.put p c).cell? q = if q = p then some c else s.cell? q := by
  unfold put
  conv_lhs => unfold cell?
  rw [OrderedMap.insert_at]
  by_cases row : q.row = p.row
  · rw [if_pos row, Option.bind_some, OrderedMap.insert_at, row_at, ← row]
    by_cases column : q.column = p.column
    · rw [if_pos column, if_pos (Position.ext_along .row row column)]
    · rw [if_neg column, if_neg fun same => column (congrArg Position.column same)]
  · rw [if_neg row, if_neg fun same => row (congrArg Position.row same)]
    rfl

theorem Pruned.put (pruned : s.Pruned) (p : Position) (c : Cell) : (s.put p c).Pruned := by
  intro i row stands
  unfold RowStore.put at stands
  rw [OrderedMap.insert_at] at stands
  split at stands
  · cases stands
    exact Std.ExtTreeMap.insert_ne_empty
  · exact pruned i row stands

theorem rows_remove (s : RowStore) (p : Position) (i : Nat) :
    (s.remove p).rows[i]? =
      if i = p.row then (s.rows[i]?.map fun row => row.erase p.column).filter fun row => !row.isEmpty
      else s.rows[i]? := by
  unfold remove
  split
  · rename_i absent
    split
    · rename_i here
      rw [here, absent]
      rfl
    · rfl
  · rename_i row stands
    dsimp only
    by_cases last : (row.erase p.column).isEmpty = true
    · rw [if_pos last, OrderedMap.erase_at]
      split
      · rename_i here
        rw [here, stands, Option.map_some, Option.filter_some, last]
        rfl
      · rfl
    · rw [if_neg last, OrderedMap.insert_at]
      split
      · rename_i here
        rw [here, stands, Option.map_some, Option.filter_some, Bool.eq_false_iff.2 last]
        rfl
      · rfl

theorem cell?_remove (s : RowStore) (p q : Position) :
    (s.remove p).cell? q = if q = p then none else s.cell? q := by
  by_cases line : q.row = p.row
  · have rest : (s.remove p).cell? q = s.rows[q.row]?.bind fun row => (row.erase p.column)[q.column]? := by
      rw [cell?, rows_remove, if_pos line, LineMap.filter_bind, Option.bind_map]
      rfl
    rw [rest]
    by_cases column : q.column = p.column
    · rw [if_pos (Position.ext_along .row line column)]
      simp only [OrderedMap.erase_at, if_pos column, Option.bind_fun_none]
    · rw [if_neg fun same => column (congrArg Position.column same)]
      simp only [OrderedMap.erase_at, if_neg column]
      rfl
  · rw [if_neg fun same => line (congrArg Position.row same), cell?, rows_remove, if_neg line]
    rfl

theorem Pruned.remove (pruned : s.Pruned) (p : Position) : (s.remove p).Pruned := by
  intro i row stands
  rw [rows_remove] at stands
  split at stands
  · exact LineMap.ne_empty_of_filter stands
  · exact pruned i row stands

theorem Pruned.update (pruned : s.Pruned) (p : Position) (f : Cell → Cell) : (s.update p f).Pruned := by
  unfold RowStore.update
  split
  · exact pruned
  · exact pruned.put p _

theorem Pruned.updateAll (pruned : s.Pruned) (f : Position → Cell → Cell) : (s.updateAll f).Pruned := by
  intro i row stands
  unfold RowStore.updateAll at stands
  rw [Std.ExtTreeMap.getElem?_map, Option.map_eq_some_iff] at stands
  obtain ⟨row, stands, rfl⟩ := stands
  obtain ⟨j, c, cell⟩ := LineMap.exists_of_ne_empty (pruned i row stands)
  refine LineMap.ne_empty_of_some (i := j) (a := f ⟨i, j⟩ c) ?_
  rw [Std.ExtTreeMap.getElem?_map, cell]
  rfl

/-! ## Line edits -/

def MovedTo (s : RowStore) (edit : LineEdit) (s' : RowStore) : Prop :=
  ∀ q c, s'.cell? q = some c ↔ ∃ p, s.cell? p = some c ∧ edit.shift p = some q

theorem movedTo_of_rows {rows : LineMap (LineMap Cell)} (along : edit.axis = .row)
    (moved : ∀ j row, rows[j]? = some row ↔ ∃ i, s.rows[i]? = some row ∧ edit.shiftIndex i = some j) :
    s.MovedTo edit ⟨rows⟩ := by
  intro q c
  simp only [cell?_eq_some_iff, LineEdit.shift_iff, along]
  constructor
  · rintro ⟨row, stands, cell⟩
    obtain ⟨i, stands, goes⟩ := (moved q.row row).1 stands
    exact ⟨⟨i, q.column⟩, ⟨row, stands, cell⟩, goes, rfl⟩
  · rintro ⟨p, ⟨row, stands, cell⟩, goes, across⟩
    refine ⟨row, (moved q.row row).2 ⟨p.row, stands, goes⟩, ?_⟩
    rwa [show q.column = p.column from across]

theorem movedTo_of_columns {rows : LineMap (LineMap Cell)} {f : LineMap Cell → Option (LineMap Cell)}
    (along : edit.axis = .column) (rowsAt : ∀ i : Nat, rows[i]? = s.rows[i]?.bind f)
    (each : ∀ (i : Nat) row, s.rows[i]? = some row → ∃ row', f row = some row' ∧
      ∀ j c, row'[j]? = some c ↔ ∃ j', row[j']? = some c ∧ edit.shiftIndex j' = some j) :
    s.MovedTo edit ⟨rows⟩ := by
  intro q c
  simp only [cell?_eq_some_iff, LineEdit.shift_iff, along, rowsAt, Option.bind_eq_some_iff]
  constructor
  · rintro ⟨row', ⟨row, stands, same⟩, cell⟩
    obtain ⟨_, goes, moved⟩ := each q.row row stands
    obtain rfl := Option.some.inj (goes.symm.trans same)
    obtain ⟨j, cell, goes⟩ := (moved q.column c).1 cell
    exact ⟨⟨q.row, j⟩, ⟨row, stands, cell⟩, goes, rfl⟩
  · rintro ⟨p, ⟨row, stands, cell⟩, goes, across⟩
    obtain ⟨row', same, moved⟩ := each p.row row stands
    refine ⟨row', ⟨row, ?_, same⟩, (moved q.column c).2 ⟨p.column, cell, goes⟩⟩
    rwa [show q.row = p.row from across]

theorem insertLine_at (pruned : s.Pruned) (room : s.RoomFor (.insert axis k)) :
    ∃ s', s.insertLine axis k = some s' ∧ s'.Pruned ∧ s.MovedTo (.insert axis k) s' := by
  cases axis with
  | row =>
      have room : s.rows.HasRoom rowWordBound k := by
        intro i row stands behind
        obtain ⟨j, c, cell⟩ := pruned.exists_cell stands
        exact room rfl ⟨i, j⟩ c cell behind
      obtain ⟨rows, opened, at'⟩ := LineMap.openAt_at room
      refine ⟨⟨rows⟩, ?_, fun j row stands => ?_, movedTo_of_rows rfl fun j row => ?_⟩
      · unfold insertLine
        dsimp only
        rw [opened]
        rfl
      · obtain ⟨i, stands, _⟩ := (at' j row).1 stands
        exact pruned i row stands
      · rw [at' j row]
        simp only [LineEdit.shiftIndex, Option.some.injEq]
  | column =>
      have opens : ∀ (i : Nat) row, s.rows[i]? = some row → ∃ row', row.openAt columnWordBound k = some row' ∧
          ∀ j c, row'[j]? = some c ↔ ∃ j', row[j']? = some c ∧ openedAt k j' = j := by
        intro i row stands
        refine LineMap.openAt_at fun j c cell behind => ?_
        exact room rfl ⟨i, j⟩ c (cell?_eq_some_iff.2 ⟨row, stands, cell⟩) behind
      obtain ⟨rows, opened, rowsAt⟩ := LineMap.mapInWords_at fun i row stands =>
        (opens i row stands).imp fun _ h => h.1
      refine ⟨⟨rows⟩, ?_, fun i row stands => ?_, movedTo_of_columns rfl rowsAt fun i row stands => ?_⟩
      · unfold insertLine
        dsimp only
        rw [opened]
        rfl
      · rw [rowsAt, Option.bind_eq_some_iff] at stands
        obtain ⟨old, stands, same⟩ := stands
        obtain ⟨row', opened, moved⟩ := opens i old stands
        obtain rfl := Option.some.inj (opened.symm.trans same)
        obtain ⟨j, c, cell⟩ := LineMap.exists_of_ne_empty (pruned i old stands)
        exact LineMap.ne_empty_of_some ((moved _ c).2 ⟨j, cell, rfl⟩)
      · obtain ⟨row', opened, moved⟩ := opens i row stands
        refine ⟨row', opened, fun j c => ?_⟩
        simp only [moved, LineEdit.shiftIndex, Option.some.injEq]

theorem pruned_prune (s : RowStore) : s.prune.Pruned := by
  intro i row stands
  unfold prune at stands
  rw [Std.ExtTreeMap.getElem?_filter'] at stands
  exact LineMap.ne_empty_of_filter stands

theorem cell?_prune (s : RowStore) (p : Position) : s.prune.cell? p = s.cell? p := by
  unfold cell? prune
  rw [Std.ExtTreeMap.getElem?_filter', LineMap.filter_bind]

theorem mem_takenOut {closed : LineMap (LineMap Cell × Option Cell)} {i : Nat} :
    (i, c) ∈ takenOut closed ↔ ∃ row, closed[i]? = some (row, some c) := by
  unfold takenOut
  rw [List.mem_filterMap]
  constructor
  · rintro ⟨⟨_, row, line⟩, mem, taken⟩
    obtain ⟨_, here, same⟩ := Option.map_eq_some_iff.1 taken
    obtain ⟨rfl, rfl⟩ := Prod.mk.inj same
    obtain rfl : line = some _ := here
    exact ⟨row, OrderedMap.mem_toList_iff.1 mem⟩
  · rintro ⟨row, stands⟩
    exact ⟨(i, (row, some c)), OrderedMap.mem_toList_iff.2 stands, rfl⟩

theorem deleteLine_at (pruned : s.Pruned) (axis : Axis) (k : Nat) :
    ∃ s' removed, s.deleteLine axis k = some (s', removed) ∧ s'.Pruned ∧
      s.MovedTo (.delete axis k) s' ∧
      ∀ p c, p.along axis = k → ((p.along axis.other, c) ∈ removed ↔ s.cell? p = some c) := by
  cases axis with
  | row =>
      obtain ⟨rows, closed, rowsAt⟩ := s.rows.closeAt_at k
      refine ⟨⟨rows⟩, s.rows[k]?.elim [] (·.toList), ?_, fun j row stands => ?_,
        movedTo_of_rows rfl rowsAt, ?_⟩
      · unfold deleteLine
        dsimp only
        rw [closed]
        rfl
      · obtain ⟨i, stands, _⟩ := (rowsAt j row).1 stands
        exact pruned i row stands
      · rintro p c rfl
        show (p.column, c) ∈ s.rows[p.row]?.elim [] _ ↔ s.rows[p.row]?.bind _ = some c
        cases s.rows[p.row]? with
        | none => simp
        | some row => exact OrderedMap.mem_toList_iff
  | column =>
      obtain ⟨closed, all, closedAt⟩ := LineMap.mapInWords_at (m := s.rows)
        (f := fun row => row.closeAt k) fun i row _ => (row.closeAt_at k).imp' (·, row[k]?) fun _ h => h.1
      refine ⟨prune ⟨closed.map fun _ row => row.1⟩, takenOut closed, ?_, pruned_prune _, ?_, ?_⟩
      · unfold deleteLine
        dsimp only
        rw [all]
        rfl
      · intro q c
        rw [cell?_prune]
        refine movedTo_of_columns (f := fun row => (row.closeAt k).map (·.1)) rfl (fun i => ?_)
          (fun i row _ => ?_) q c
        · rw [Std.ExtTreeMap.getElem?_map, closedAt]
          cases s.rows[i]? <;> rfl
        · obtain ⟨row', same, moved⟩ := row.closeAt_at k
          exact ⟨row', by rw [same]; rfl, moved⟩
      · rintro p c rfl
        show (p.row, c) ∈ _ ↔ _
        rw [mem_takenOut, cell?_eq_some_iff, closedAt]
        simp only [Option.bind_eq_some_iff]
        refine exists_comm.trans (exists_congr fun row => ?_)
        obtain ⟨row', same, _⟩ := row.closeAt_at (p.along .column)
        simp only [same, exists_and_left, Option.some.injEq, Prod.mk.injEq, exists_eq_left']
        rfl

theorem editLine_at (pruned : s.Pruned) (room : s.RoomFor edit) :
    ∃ s', s.editLine edit = some s' ∧ s'.Pruned ∧ s.MovedTo edit s' := by
  cases edit with
  | insert axis k => exact insertLine_at pruned room
  | delete axis k =>
      obtain ⟨s', removed, deleted, pruned', moved, _⟩ := deleteLine_at pruned axis k
      refine ⟨s', ?_, pruned', moved⟩
      show (s.deleteLine axis k).map _ = _
      rw [deleted]
      rfl

theorem roomFor_of_editLine (edited : s.editLine edit = some s') : s.RoomFor edit := by
  intro inserts p c cell behind
  obtain ⟨row, stands, cell⟩ := cell?_eq_some_iff.1 cell
  cases edit with
  | delete axis k => cases inserts
  | insert axis k =>
      cases axis with
      | row =>
          obtain ⟨rows, opened, _⟩ := Option.map_eq_some_iff.1 edited
          exact LineMap.hasRoom_of_openAt opened p.row row stands behind
      | column =>
          obtain ⟨rows, opened, _⟩ := Option.map_eq_some_iff.1 edited
          obtain ⟨row', opened⟩ := LineMap.exists_of_mapInWords opened stands
          exact LineMap.hasRoom_of_openAt opened p.column c cell behind

theorem HasRoom.roomFor (room : s.HasRoom edit.axis) : s.RoomFor edit :=
  fun _ p c cell _ => room p c cell

theorem Built.pruned (built : s.Built) : s.Pruned := by
  induction built with
  | empty =>
      intro i row stands
      rw [Std.ExtTreeMap.getElem?_empty] at stands
      cases stands
  | put p c _ ih => exact ih.put p c
  | remove p _ ih => exact ih.remove p
  | update p f _ ih => exact ih.update p f
  | updateAll f _ ih => exact ih.updateAll f
  | editLine edit _ edited ih =>
      obtain ⟨s', edited', pruned, _⟩ := editLine_at ih (roomFor_of_editLine edited)
      rwa [Option.some.inj (edited.symm.trans edited')]

end RowStore

end Spreadsheet
