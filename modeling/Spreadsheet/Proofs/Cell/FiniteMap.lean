import Spreadsheet.Proofs.Cell.Listing

/-!
# Stores refine finite maps

The same operations are done to a store and to a function from positions to cells, which changes one
position after the other and knows nothing of rows. After every run the store tells what the function
does, and what deletions gave back are the lines that the function had at the time.
-/

namespace Spreadsheet

namespace Axis
variable {axis : Axis} {k i : Nat}

def position : Axis → Nat → Nat → Position
  | row, k, i => ⟨k, i⟩
  | column, k, i => ⟨i, k⟩

theorem position_along : (axis.position k i).along axis = k := by cases axis <;> rfl

theorem position_other : (axis.position k i).along axis.other = i := by cases axis <;> rfl

theorem forall_iff {motive : Axis → Prop} (axis : Axis) :
    (∀ axis, motive axis) ↔ motive axis ∧ motive axis.other := by
  constructor
  · exact fun all => ⟨all axis, all axis.other⟩
  · rintro ⟨here, across⟩ axis'
    cases axis <;> cases axis' <;> assumption

end Axis

def Position.InWords (p : Position) : Prop := ∀ axis : Axis, p.along axis < axis.wordBound

theorem closedAt_eq_none_iff {k i : Nat} : closedAt k i = none ↔ i = k := by
  rw [closedAt]
  split
  · simp only [reduceCtorEq, false_iff]
    omega
  · split <;> simp_all

namespace LineEdit
variable {edit : LineEdit} {p q : Position} {i j : Nat}

def inverse : LineEdit → LineEdit
  | insert axis k => delete axis k
  | delete axis k => insert axis k

theorem inverse_shiftIndex : edit.inverse.shiftIndex j = some i ↔ edit.shiftIndex i = some j := by
  have opened : ∀ k i j, openedAt k i = j ↔ closedAt k j = some i := by
    intro k i j
    rw [closedAt_eq_some_iff, openedAt]
    split <;> omega
  cases edit with
  | insert axis k => simp only [inverse, shiftIndex, ← opened, Option.some.injEq]
  | delete axis k => simp only [inverse, shiftIndex, ← opened, Option.some.injEq]

theorem inverse_shift : edit.inverse.shift q = some p ↔ edit.shift p = some q := by
  have same : edit.inverse.axis = edit.axis := by cases edit <;> rfl
  rw [shift_iff, shift_iff, same, inverse_shiftIndex, eq_comm (a := p.along _)]

theorem shift_eq_none_iff :
    edit.shift p = none ↔ edit.isInsert = false ∧ p.along edit.axis = edit.index := by
  rw [shift, Option.map_eq_none_iff]
  cases edit with
  | insert axis k => simp [shiftIndex, isInsert]
  | delete axis k => exact closedAt_eq_none_iff.trans (by simp [isInsert, index])

theorem moveIndex_iff_shiftIndex (named : i < edit.axis.bound) :
    edit.moveIndex i = some j ↔ edit.shiftIndex i = some j ∧ j < edit.axis.bound := by
  cases edit with
  | insert axis k =>
      rw [LineEdit.axis] at named ⊢
      rw [moveIndex_insert_iff, shiftIndex, Option.some.injEq, openedAt]
      split <;> omega
  | delete axis k =>
      rw [LineEdit.axis] at named
      rw [moveIndex_delete_iff, shiftIndex, closedAt_eq_some_iff, LineEdit.axis]
      omega

/-- A reference moves with the stored cell, unless that leaves what notation can name. -/
theorem movePosition_iff_shift (named : p.InBounds) :
    edit.movePosition p = some q ↔ edit.shift p = some q ∧ q.InBounds := by
  rw [Position.inBounds_iff_along, Axis.forall_iff edit.axis] at named
  rw [movePosition_iff, shift_iff, moveIndex_iff_shiftIndex named.1, Position.inBounds_iff_along,
    Axis.forall_iff edit.axis]
  constructor
  · rintro ⟨⟨goes, below⟩, same⟩
    exact ⟨⟨goes, same⟩, below, same ▸ named.2⟩
  · rintro ⟨⟨goes, same⟩, below, _⟩
    exact ⟨⟨goes, below⟩, same⟩

theorem movePosition_of_shift (named : p.InBounds) (goes : edit.shift p = some q) :
    edit.movePosition p = if q.InBounds then some q else none := by
  split
  · rename_i inside
    exact (movePosition_iff_shift named).2 ⟨goes, inside⟩
  · rename_i outside
    refine Option.eq_none_iff_forall_ne_some.2 fun q' moved => outside ?_
    obtain ⟨goes', inside⟩ := (movePosition_iff_shift named).1 moved
    rwa [Option.some.inj (goes.symm.trans goes')]

theorem movePosition_deleted (axis : Axis) (p : Position) :
    (delete axis (p.along axis)).movePosition p = none := by
  rw [movePosition, moveIndex, LineEdit.axis, if_pos rfl]
  rfl

theorem inWords_of_shift (inWords : p.InWords)
    (room : edit.isInsert = true → edit.index ≤ p.along edit.axis →
      p.along edit.axis + 1 < edit.axis.wordBound) (goes : edit.shift p = some q) : q.InWords := by
  obtain ⟨along, across⟩ := shift_iff.1 goes
  refine (Axis.forall_iff edit.axis).2 ⟨?_, across ▸ inWords edit.axis.other⟩
  have here := inWords edit.axis
  cases edit with
  | insert axis k =>
      have room : k ≤ p.along axis → p.along axis + 1 < axis.wordBound := room rfl
      have along : openedAt k (p.along axis) = q.along axis := Option.some.inj along
      rw [LineEdit.axis] at here ⊢
      rw [openedAt] at along
      split at along <;> omega
  | delete axis k =>
      rw [LineEdit.axis] at here ⊢
      rcases closedAt_eq_some_iff.1 along with ⟨_, same⟩ | ⟨_, same⟩ <;>
        rw [LineEdit.axis] at same <;> omega

end LineEdit

inductive StoreOperation
  | put (p : Position) (c : Cell)
  | remove (p : Position)
  | editLine (edit : LineEdit)
  | clear

namespace CellMap
variable {m : CellMap} {edit : LineEdit} {p q : Position} {c : Cell}

def empty : CellMap := fun _ => none

def put (m : CellMap) (p : Position) (c : Cell) : CellMap := fun q => if q = p then some c else m q

def remove (m : CellMap) (p : Position) : CellMap := fun q => if q = p then none else m q

def moved (m : CellMap) (edit : LineEdit) : CellMap := fun q => (edit.inverse.shift q).bind m

def line (m : CellMap) (axis : Axis) (k : Nat) : Nat → Option Cell := fun i => m (axis.position k i)

def perform (m : CellMap) : StoreOperation → CellMap
  | .put p c => m.put p c
  | .remove p => m.remove p
  | .editLine edit => m.moved edit
  | .clear => empty

def returned (m : CellMap) : StoreOperation → Nat → Option Cell
  | .editLine (.delete axis k) => m.line axis k
  | _ => fun _ => none

def run (m : CellMap) : List StoreOperation → CellMap × List (Nat → Option Cell)
  | [] => (m, [])
  | op :: ops =>
    let (m', lines) := (m.perform op).run ops
    (m', m.returned op :: lines)

/-- Cells are put where words can name a position, and lines are inserted where the cells behind them
have a next one. -/
def Fits (m : CellMap) : StoreOperation → Prop
  | .put p _ => p.InWords
  | .editLine edit => edit.isInsert = true → ∀ p c, m p = some c → edit.index ≤ p.along edit.axis →
      p.along edit.axis + 1 < edit.axis.wordBound
  | _ => True

def AllFit (m : CellMap) : List StoreOperation → Prop
  | [] => True
  | op :: ops => m.Fits op ∧ (m.perform op).AllFit ops

theorem moved_iff : m.moved edit q = some c ↔ ∃ p, m p = some c ∧ edit.shift p = some q := by
  simp only [moved, Option.bind_eq_some_iff, LineEdit.inverse_shift, and_comm]

end CellMap

namespace RowStore
variable {s : RowStore} {m : CellMap} {op : StoreOperation}

def perform (s : RowStore) : StoreOperation → Option (RowStore × List (Nat × Cell))
  | .put p c => some (s.put p c, [])
  | .remove p => some (s.remove p, [])
  | .editLine (.insert axis k) => (s.insertLine axis k).map fun s => (s, [])
  | .editLine (.delete axis k) => s.deleteLine axis k
  | .clear => some ({}, [])

def run (s : RowStore) : List StoreOperation → Option (RowStore × List (List (Nat × Cell)))
  | [] => some (s, [])
  | op :: ops => do
    let (s, cells) ← s.perform op
    let (s, lines) ← s.run ops
    return (s, cells :: lines)

structure Refines (s : RowStore) (m : CellMap) : Prop where
  cells : s.cell? = m
  pruned : s.Pruned
  inWords : ∀ p c, m p = some c → p.InWords

theorem refines_empty : ({} : RowStore).Refines .empty where
  cells := by
    funext p
    rw [cell?, Std.ExtTreeMap.getElem?_empty]
    rfl
  pruned := Built.empty.pruned
  inWords p c cell := by cases cell

theorem Refines.put (refines : s.Refines m) {p : Position} (inWords : p.InWords) (c : Cell) :
    (s.put p c).Refines (m.put p c) where
  cells := by
    funext q
    rw [cell?_put, refines.cells]
    rfl
  pruned := refines.pruned.put p c
  inWords q c' cell := by
    rw [CellMap.put] at cell
    split at cell
    · rename_i here
      rwa [here]
    · exact refines.inWords q c' cell

theorem Refines.remove (refines : s.Refines m) (p : Position) : (s.remove p).Refines (m.remove p) where
  cells := by
    funext q
    rw [cell?_remove, refines.cells]
    rfl
  pruned := refines.pruned.remove p
  inWords q c' cell := by
    rw [CellMap.remove] at cell
    split at cell
    · cases cell
    · exact refines.inWords q c' cell

theorem Refines.moved {s' : RowStore} {edit : LineEdit} (refines : s.Refines m)
    (fits : m.Fits (.editLine edit)) (pruned : s'.Pruned) (moved : s.MovedTo edit s') :
    s'.Refines (m.moved edit) where
  cells := by
    funext q
    refine Option.ext fun c => ?_
    rw [moved, refines.cells, CellMap.moved_iff]
  pruned := pruned
  inWords q c cell := by
    obtain ⟨p, cell, goes⟩ := CellMap.moved_iff.1 cell
    exact LineEdit.inWords_of_shift (refines.inWords p c cell) (fun inserts => fits inserts p c cell) goes

theorem Refines.perform (refines : s.Refines m) (fits : m.Fits op) :
    ∃ s' cells, s.perform op = some (s', cells) ∧ s'.Refines (m.perform op) ∧
      Lists cells (m.returned op) := by
  cases op with
  | put p c => exact ⟨_, _, rfl, refines.put fits c, .nil⟩
  | remove p => exact ⟨_, _, rfl, refines.remove p, .nil⟩
  | clear => exact ⟨_, _, rfl, refines_empty, .nil⟩
  | editLine edit =>
      cases edit with
      | insert axis k =>
          have room : s.RoomFor (.insert axis k) := by
            intro inserts p c cell behind
            rw [refines.cells] at cell
            exact fits inserts p c cell behind
          obtain ⟨s', inserted, pruned, moved⟩ := insertLine_at refines.pruned room
          refine ⟨s', [], ?_, refines.moved fits pruned moved, .nil⟩
          rw [RowStore.perform, inserted]
          rfl
      | delete axis k =>
          obtain ⟨s', cells, deleted, pruned, moved, taken⟩ := deleteLine_at refines.pruned axis k
          refine ⟨s', cells, deleted, refines.moved fits pruned moved, ordered_deleteLine deleted, ?_⟩
          intro i c
          have listed := taken (axis.position k i) c Axis.position_along
          rw [Axis.position_other, refines.cells] at listed
          exact listed

theorem Refines.run (refines : s.Refines m) {ops : List StoreOperation} (fit : m.AllFit ops) :
    ∃ s' lines, s.run ops = some (s', lines) ∧ s'.Refines (m.run ops).1 ∧
      List.Forall₂ Lists lines (m.run ops).2 := by
  induction ops generalizing s m with
  | nil => exact ⟨s, [], rfl, refines, .nil⟩
  | cons op ops ih =>
      obtain ⟨fits, fit⟩ := fit
      obtain ⟨s₁, cells, performed, refines₁, listed⟩ := refines.perform fits
      obtain ⟨s₂, lines, ran, refines₂, rest⟩ := ih refines₁ fit
      refine ⟨s₂, cells :: lines, ?_, refines₂, .cons listed rest⟩
      rw [RowStore.run, performed, Option.bind_eq_bind, Option.bind_some]
      dsimp only
      rw [ran]
      rfl

/-! ## What the store tells -/

/-- All that a store tells about its cells is so in the map. -/
structure Represents (s : RowStore) (m : CellMap) : Prop where
  cells : ∀ p, s.cell? p = m p
  listed : Lists s.toList m
  row : ∀ i, Lists (s.row i).toList (m.line .row i)
  kept : ∀ (i : Nat) row, s.rows[i]? = some row → row ≠ ∅
  isEmpty_iff : s.isEmpty = true ↔ m.support = ∅
  size_eq : m.support.encard = s.size
  bounds_eq_none_iff : s.bounds = none ↔ m.support = ∅
  bounds_enclose : ∀ b, s.bounds = some b → b.Enclose m

theorem Refines.represents (refines : s.Refines m) : s.Represents m := by
  obtain ⟨rfl, pruned, inWords⟩ := refines
  have narrow : ∀ j ∈ CellMap.lines s.cell? .column, j < columnWordBound := by
    intro j mem
    obtain ⟨p, c, cell, rfl⟩ := mem_lines.1 mem
    exact inWords p c cell .column
  exact {
    cells := fun _ => rfl
    listed := s.lists_toList
    row := s.lists_row
    kept := pruned
    isEmpty_iff := pruned.isEmpty_iff
    size_eq := s.encard_support
    bounds_eq_none_iff := pruned.bounds_eq_none_iff
    bounds_enclose := fun _ => pruned.bounds_enclose narrow }

/-- Every run of operations on a store that starts empty goes through where the cells fit in words, and
tells what the map does. A line edit of the map moves each cell but those of a deleted line to a position of
its own; the name of a cell moves with it as long as the new position has a name. -/
theorem run_represents (ops : List StoreOperation) (m : CellMap) (edit : LineEdit) :
    (CellMap.empty.AllFit ops → ∃ s lines, ({} : RowStore).run ops = some (s, lines) ∧
      s.Represents (CellMap.empty.run ops).1 ∧ List.Forall₂ Lists lines (CellMap.empty.run ops).2) ∧
    (∀ (p : Position) (c : Cell), m p = some c →
      (∃ axis, edit = .delete axis (p.along axis) ∧ edit.movePosition p = none) ∨
      ∃ q, edit.shift p = some q ∧ m.moved edit q = some c ∧
        (p.InBounds → edit.movePosition p = if q.InBounds then some q else none)) ∧
    ∀ (q : Position) (c : Cell), m.moved edit q = some c →
      ∃! p, m p = some c ∧ edit.shift p = some q := by
  refine ⟨fun fit => ?_, fun p c cell => ?_, fun q c cell => ?_⟩
  · obtain ⟨s, lines, ran, refines, listed⟩ := refines_empty.run fit
    exact ⟨s, lines, ran, refines.represents, listed⟩
  · cases goes : edit.shift p with
    | none =>
        obtain ⟨deletes, here⟩ := LineEdit.shift_eq_none_iff.1 goes
        cases edit with
        | insert axis k => cases deletes
        | delete axis k =>
            obtain rfl : p.along axis = k := here
            exact .inl ⟨axis, rfl, LineEdit.movePosition_deleted axis p⟩
    | some q =>
        exact .inr ⟨q, rfl, CellMap.moved_iff.2 ⟨p, cell, goes⟩, (LineEdit.movePosition_of_shift · goes)⟩
  · obtain ⟨p, before, goes⟩ := CellMap.moved_iff.1 cell
    exact ⟨p, ⟨before, goes⟩, fun p' other => LineEdit.shift_injective other.2 goes⟩

theorem twoCells_represented :
    (∃ s lines, ({} : RowStore).run [.put ⟨0, 0⟩ (.ofRaw "1"), .put ⟨2, 1⟩ (.ofRaw "=A1"),
        .editLine (.insert .row 1), .editLine (.delete .column 0)] = some (s, lines) ∧
      s.cell? ⟨3, 0⟩ = some (.ofRaw "=A1") ∧ s.cell? ⟨0, 0⟩ = none) ∧
    (CellMap.empty.put ⟨2, 1⟩ (.ofRaw "=A1")).moved (.insert .row 1) ⟨3, 1⟩ = some (.ofRaw "=A1") ∧
    ∃! p, CellMap.empty.put ⟨2, 1⟩ (.ofRaw "=A1") p = some (.ofRaw "=A1") ∧
      (LineEdit.insert .row 1).shift p = some ⟨3, 1⟩ := by
  have words : ∀ p : Position, p.row < 10 → p.column < 10 → p.InWords := by
    intro p row column axis
    cases axis
    · exact row.trans (by decide)
    · exact column.trans (by decide)
  obtain ⟨runs, edits, sources⟩ := run_represents
    [.put ⟨0, 0⟩ (.ofRaw "1"), .put ⟨2, 1⟩ (.ofRaw "=A1"), .editLine (.insert .row 1),
      .editLine (.delete .column 0)]
    (CellMap.empty.put ⟨2, 1⟩ (.ofRaw "=A1")) (.insert .row 1)
  obtain ⟨s, lines, ran, represents, _⟩ := runs (by
      refine ⟨words _ (by decide) (by decide), words _ (by decide) (by decide), fun _ p c cell _ => ?_,
        nofun, trivial⟩
      simp only [CellMap.perform, CellMap.put, CellMap.empty] at cell
      split at cell
      · subst p
        decide
      · split at cell
        · subst p
          decide
        · cases cell)
  refine ⟨⟨s, lines, ran, represents.cells _, represents.cells _⟩, ?_, sources _ _ rfl⟩
  obtain ⟨_, deleted, _⟩ | ⟨q, goes, cell, _⟩ := edits ⟨2, 1⟩ (.ofRaw "=A1") rfl
  · cases deleted
  · obtain rfl := Option.some.inj goes
    exact cell

/-- From the last row that has a name, an insertion moves a cell to a row without one. -/
theorem lastRow_moves_on :
    (∃ s lines, ({} : RowStore).run [.put ⟨1048575, 0⟩ (.ofRaw "x"), .editLine (.insert .row 0)] =
        some (s, lines) ∧ s.cell? ⟨1048576, 0⟩ = some (.ofRaw "x")) ∧
      Position.InBounds ⟨1048575, 0⟩ ∧ (LineEdit.insert .row 0).movePosition ⟨1048575, 0⟩ = none := by
  have inWords : Position.InWords ⟨1048575, 0⟩ := fun axis => by cases axis <;> decide
  have fit : CellMap.empty.AllFit [.put ⟨1048575, 0⟩ (.ofRaw "x"), .editLine (.insert .row 0)] := by
    refine ⟨inWords, fun _ p c cell _ => ?_, trivial⟩
    simp only [CellMap.perform, CellMap.put, CellMap.empty] at cell
    split at cell
    · subst p
      decide
    · cases cell
  obtain ⟨s, lines, ran, refines, _⟩ := refines_empty.run fit
  exact ⟨⟨s, lines, ran, congrFun refines.cells _⟩, by decide, by decide⟩

end RowStore

end Spreadsheet
