import Spreadsheet.Proofs.Cell.RowStore
import Spreadsheet.Proofs.Formula.Composition

namespace Spreadsheet

namespace LineEdit
variable {edit edit' : LineEdit}

theorem shift_insert_delete (axis : Axis) (k : Nat) (p : Position) :
    ((insert axis k).shift p).bind (delete axis k).shift = some p := by
  refine (p.bind_along axis (insert axis k).shiftIndex (delete axis k).shiftIndex).trans ?_
  show ((closedAt k (openedAt k (p.along axis))).map (p.withAlong axis)) = some p
  rw [closedAt_openedAt]
  exact congrArg some (p.withAlong_self axis)

theorem shift_comm (across : edit'.axis = edit.axis.other) (p : Position) :
    (edit.shift p).bind edit'.shift = (edit'.shift p).bind edit.shift := by
  unfold shift
  rw [across]
  exact p.bind_across edit.axis edit.shiftIndex edit'.shiftIndex

end LineEdit

namespace RowStore
variable {s s' s'' : RowStore} {edit edit' : LineEdit} {axis : Axis} {k : Nat}

theorem MovedTo.bind (first : s.MovedTo edit s') (second : s'.MovedTo edit' s'') (q : Position)
    (c : Cell) : s''.cell? q = some c ↔
      ∃ p, s.cell? p = some c ∧ (edit.shift p).bind edit'.shift = some q := by
  simp only [second q c, first _ c, Option.bind_eq_some_iff]
  constructor
  · rintro ⟨p', ⟨p, cell, goes⟩, next⟩
    exact ⟨p, cell, p', goes, next⟩
  · rintro ⟨p, cell, p', goes, next⟩
    exact ⟨p', ⟨p, cell, goes⟩, next⟩

theorem MovedTo.hasRoom (moved : s.MovedTo edit s') (room : s.HasRoom edit.axis.other) :
    s'.HasRoom edit.axis.other := by
  intro q c cell
  obtain ⟨p, cell, goes⟩ := (moved q c).1 cell
  rw [(LineEdit.shift_iff.1 goes).2]
  exact room p c cell

theorem insertLine_deleteLine (pruned : s.Pruned) (room : s.HasRoom axis) :
    (s.insertLine axis k).bind (fun s' => s'.deleteLine axis k) = some (s, []) := by
  obtain ⟨s', inserted, pruned', moved⟩ := insertLine_at (k := k) pruned (HasRoom.roomFor room)
  obtain ⟨s'', removed, deleted, pruned'', back, line⟩ := deleteLine_at pruned' axis k
  have same : s'' = s := by
    refine pruned''.ext pruned fun q c => ?_
    simp only [moved.bind back, LineEdit.shift_insert_delete, Option.some.injEq, exists_eq_right]
  have free : removed = [] := by
    refine List.eq_nil_iff_forall_not_mem.2 fun ⟨j, c⟩ mem => ?_
    -- A cell of the inserted line would come from a cell of the store.
    let p := ((⟨j, j⟩ : Position).withAlong axis k)
    have across : p.along axis.other = j := by cases axis <;> rfl
    have cell := (line p c (Position.withAlong_along ..)).1 (by rwa [across])
    obtain ⟨p', _, goes⟩ := (moved p c).1 cell
    have lands : openedAt k (p'.along axis) = p.along axis :=
      Option.some.inj (LineEdit.shift_iff.1 goes).1
    rw [Position.withAlong_along] at lands
    exact openedAt_ne k _ lands
  rw [inserted, Option.bind_some, deleted, same, free]

theorem editLine_swap (edit edit' : LineEdit) (pruned : s.Pruned) (across : edit'.axis = edit.axis.other)
    (room : s.HasRoom edit.axis) (room' : s.HasRoom edit'.axis) :
    ∃ s'', (s.editLine edit).bind (fun s' => s'.editLine edit') = some s'' ∧ s''.Pruned ∧
      ∀ q c, s''.cell? q = some c ↔ ∃ p, s.cell? p = some c ∧ (edit.shift p).bind edit'.shift = some q := by
  obtain ⟨s', edited, pruned', moved⟩ := editLine_at pruned room.roomFor
  rw [across] at room'
  have room'' := moved.hasRoom room'
  rw [← across] at room''
  obtain ⟨s'', edited', pruned'', moved'⟩ := editLine_at pruned' room''.roomFor
  refine ⟨s'', ?_, pruned'', moved.bind moved'⟩
  rw [edited]
  exact edited'

theorem editLine_comm (pruned : s.Pruned) (across : edit'.axis = edit.axis.other)
    (room : s.HasRoom edit.axis) (room' : s.HasRoom edit'.axis) :
    ∃ s'', (s.editLine edit).bind (fun s' => s'.editLine edit') = some s'' ∧
      (s.editLine edit').bind (fun s' => s'.editLine edit) = some s'' := by
  obtain ⟨s₁, edited₁, pruned₁, cells₁⟩ := editLine_swap edit edit' pruned across room room'
  obtain ⟨s₂, edited₂, pruned₂, cells₂⟩ :=
    editLine_swap edit' edit pruned (by rw [across, Axis.other_other]) room' room
  have same : s₂ = s₁ := by
    refine pruned₂.ext pruned₁ fun q c => ?_
    simp only [cells₁, cells₂, LineEdit.shift_comm across]
  exact ⟨s₁, edited₁, same ▸ edited₂⟩

end RowStore

def RowStore.twoCells : RowStore :=
  (({} : RowStore).put ⟨0, 0⟩ (.ofRaw "1")).put ⟨4, 2⟩ (.ofRaw "=SUM(B2:D6)+C$5")

theorem RowStore.twoCells_built : twoCells.Built := .put _ _ (.put _ _ .empty)

theorem RowStore.twoCells_hasRoom (axis : Axis) : twoCells.HasRoom axis := by
  intro p c cell
  rw [twoCells, cell?_put, cell?_put] at cell
  split at cell
  · rename_i here
    rw [here]
    cases axis <;> decide
  · split at cell
    · rename_i here
      rw [here]
      cases axis <;> decide
    · cases cell

def Expr.sumAndCell : Expr :=
  .binary .add
    (.call "SUM" [.range ⟨{ row := 1, column := 1 }, { row := 5, column := 3 }, by decide, by decide⟩])
    (.cell { row := 4, column := 2, rowFixed := true })

theorem Expr.sumAndCell_named : ∀ r ∈ sumAndCell.references, r.InBounds ∧
    ∀ axis : Axis, r.last.along axis + 1 < axis.bound := by
  intro r refers
  simp only [sumAndCell, references, argReferences, List.append_nil, List.mem_append,
    List.mem_singleton] at refers
  obtain rfl | rfl := refers
  · refine ⟨⟨?_, ?_⟩, fun axis => ?_⟩
    · decide
    · decide
    · cases axis <;> decide
  · refine ⟨⟨?_, ?_⟩, fun axis => ?_⟩
    · decide
    · decide
    · cases axis <;> decide

namespace LineEdit

/-- Deleting a line just inserted undoes the insertion. A store without a cell on the last line of the
words comes back with no cell removed, an expression that refers to nothing on the last line of notation
comes back as the same tree, and so does a position in front of that line. -/
theorem delete_undoes_insert (axis : Axis) (k : Nat) :
    (∀ s : RowStore, s.Built → s.HasRoom axis →
      (s.insertLine axis k).bind (fun s' => s'.deleteLine axis k) = some (s, [])) ∧
    (∀ e : Expr, (∀ r ∈ e.references, r.InBounds ∧ r.last.along axis + 1 < axis.bound) →
      (e.afterInWords (insert axis k)).bind (Expr.afterInWords (delete axis k)) = some e) ∧
    ∀ p : Position, p.InBounds → p.along axis + 1 < axis.bound →
      (insert axis k).moveTwiceInWords (delete axis k) p = some (some p) := by
  refine ⟨fun s built room => RowStore.insertLine_deleteLine built.pruned room, fun e named => ?_,
    fun p _ room => ?_⟩
  · rw [Expr.afterInWords_bind _ _ fun r refers => (named r refers).1,
      Expr.move_insert_delete e fun r refers => (named r refers).2]
  · have inside : ∀ q, (insert axis k).movePosition p = some q → q.along axis < axis.bound := by
      intro q moved
      have line : (insert axis k).moveIndex (p.along axis) = some (q.along axis) :=
        (movePosition_iff.1 moved).1
      rw [moveIndex_insert_iff] at line
      omega
    have here : p.along axis + 1 < rowWordBound := Axis.succ_lt_rowWordBound (Nat.lt_of_succ_lt room)
    have next : ∀ q, (insert axis k).movePosition p = some q → q.along axis + 1 < rowWordBound :=
      fun q moved => Axis.succ_lt_rowWordBound (inside q moved)
    rw [moveTwiceInWords_eq here next, movePosition_insert_delete room]

theorem delete_undoes_insert_twoCells :
    (RowStore.twoCells.insertLine .row 3).bind (fun s => s.deleteLine .row 3) =
      some (RowStore.twoCells, []) ∧
    (Expr.sumAndCell.afterInWords (insert .row 3)).bind (Expr.afterInWords (delete .row 3)) =
      some Expr.sumAndCell ∧
    (insert .row 3).moveTwiceInWords (delete .row 3) ⟨4, 2⟩ = some (some ⟨4, 2⟩) := by
  obtain ⟨stores, exprs, positions⟩ := delete_undoes_insert .row 3
  refine ⟨stores _ RowStore.twoCells_built (RowStore.twoCells_hasRoom .row), exprs _ fun r refers => ?_,
    positions ⟨4, 2⟩ (by decide) (by decide)⟩
  obtain ⟨bounds, room⟩ := Expr.sumAndCell_named r refers
  exact ⟨bounds, room .row⟩

/-- Edits of rows and edits of columns commute. Expressions come to the same tree in either order, stores
without a cell on a last line of the words to the same store, and positions to the same place or to none;
also where a position is out of words in one order, the other order has no different answer. -/
theorem rows_columns_commute (rows columns : LineEdit) (alongRows : rows.axis = .row)
    (alongColumns : columns.axis = .column) :
    (∀ e : Expr, (∀ r ∈ e.references, r.InBounds) →
      ∃ e', (e.afterInWords rows).bind (Expr.afterInWords columns) = some e' ∧
        (e.afterInWords columns).bind (Expr.afterInWords rows) = some e') ∧
    (∀ s : RowStore, s.Built → s.HasRoom .row → s.HasRoom .column →
      ∃ s', (s.editLine rows).bind (fun s => s.editLine columns) = some s' ∧
        (s.editLine columns).bind (fun s => s.editLine rows) = some s') ∧
    (∀ p : Position, p.row + 1 < rowWordBound → p.column < columnWordBound →
      ∃ moved, rows.moveTwiceInWords columns p = some moved ∧
        columns.moveTwiceInWords rows p = some moved) ∧
    ∀ p a b, rows.moveTwiceInWords columns p = some a → columns.moveTwiceInWords rows p = some b →
      a = b := by
  have across : columns.axis = rows.axis.other := by rw [alongRows, alongColumns]; rfl
  refine ⟨fun e named => ?_, fun s built roomRows roomColumns => ?_, fun p row column => ?_,
    fun p a b first second => ?_⟩
  · refine ⟨(e.move rows).move columns, Expr.afterInWords_bind rows columns named, ?_⟩
    rw [Expr.afterInWords_bind columns rows named, Expr.move_comm across]
  · exact RowStore.editLine_comm built.pruned across (alongRows ▸ roomRows) (alongColumns ▸ roomColumns)
  · have room : ∀ axis : Axis, p.along axis + 1 < rowWordBound := by
      have words : columnWordBound < rowWordBound := by decide
      intro axis
      cases axis with
      | row => exact row
      | column => exact Nat.lt_of_le_of_lt column words
    refine ⟨_, moveTwiceInWords_across across room, ?_⟩
    rw [movePosition_comm across]
    exact moveTwiceInWords_across (by rw [across, Axis.other_other]) room
  · rw [eq_of_moveTwiceInWords first, eq_of_moveTwiceInWords second, movePosition_comm across]

theorem rows_columns_commute_twoCells :
    (∃ e', (Expr.sumAndCell.afterInWords (insert .row 3)).bind (Expr.afterInWords (delete .column 2)) =
        some e' ∧
      (Expr.sumAndCell.afterInWords (delete .column 2)).bind (Expr.afterInWords (insert .row 3)) =
        some e') ∧
    (∃ s', (RowStore.twoCells.editLine (insert .row 3)).bind (fun s => s.editLine (delete .column 2)) =
        some s' ∧
      (RowStore.twoCells.editLine (delete .column 2)).bind (fun s => s.editLine (insert .row 3)) =
        some s') ∧
    ∃ moved, (insert .row 3).moveTwiceInWords (delete .column 2) ⟨4, 2⟩ = some moved ∧
      (delete .column 2).moveTwiceInWords (insert .row 3) ⟨4, 2⟩ = some moved := by
  obtain ⟨exprs, stores, positions, _⟩ :=
    rows_columns_commute (insert .row 3) (delete .column 2) rfl rfl
  refine ⟨exprs _ fun r refers => (Expr.sumAndCell_named r refers).1,
    stores _ RowStore.twoCells_built (RowStore.twoCells_hasRoom .row) (RowStore.twoCells_hasRoom .column),
    positions ⟨4, 2⟩ (by decide) (by decide)⟩

end LineEdit

end Spreadsheet
