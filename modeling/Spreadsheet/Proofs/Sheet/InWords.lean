import Spreadsheet.Proofs.Formula.InWords
import Spreadsheet.Proofs.Sheet.Extent
import Spreadsheet.Proofs.Sheet.Standing
import Spreadsheet.Proofs.Sheet.Values
import Spreadsheet.Sheet.InWords

namespace Spreadsheet

namespace InWords
variable {ε α β : Type}

theorem word_bind {o : Option α} {a : α} (h : o = some a) (next : α → ExceptT ε Option β) :
    ((liftM o : ExceptT ε Option α) >>= next) = next a := by
  rw [h]
  rfl

theorem word_bind_none {o : Option α} (h : o = none) (next : α → ExceptT ε Option β) :
    ((liftM o : ExceptT ε Option α) >>= next).run = none := by
  rw [h]
  rfl

theorem run_bind_of_some {work : ExceptT ε Option α} {x : Except ε α} (first : work.run = some x)
    {next : α → ExceptT ε Option β} {f : α → Except ε β}
    (next_ok : ∀ a, x = .ok a → (next a).run = some (f a)) : (work >>= next).run = some (x >>= f) := by
  rw [ExceptT.run_bind, first]
  cases x with
  | error fault => rfl
  | ok a => exact next_ok a rfl

theorem run_bind_map {work : InWords α} {x : Except GridError α} (first : work.run = some x)
    {next : α → InWords β} {f : α → β} (next_ok : ∀ a, x = .ok a → (next a).run = some (.ok (f a))) :
    (work >>= next).run = some (x.map f) := by
  rw [ExceptT.run_bind, first]
  cases x with
  | error fault => rfl
  | ok a => exact next_ok a rfl

theorem run_bind_ok {work : ExceptT ε Option α} {a : α} (first : work.run = some (.ok a))
    (next : α → ExceptT ε Option β) :
    (work >>= next).run = (next a).run := by
  rw [ExceptT.run_bind, first]
  rfl

end InWords

/-! ## Cells -/

theorem openedAtInWords_of_lt {bound k i : Nat} (room : k ≤ i → i + 1 < bound) :
    openedAtInWords bound k i = some (openedAt k i) := by
  unfold openedAtInWords openedAt
  split
  · rfl
  · exact wordSum_of_lt (room (by omega))

theorem closedAtInWords_eq (k i : Nat) : closedAtInWords k i = some (closedAt k i) := by
  unfold closedAtInWords closedAt
  split
  · rfl
  · split
    · rfl
    · rw [wordDifference_of_le (by omega)]
      rfl

namespace CellStore
variable {s : CellStore} {axis : Axis} {k : Nat}

theorem relocateInWords_eq {f : Position → Option (Option Position)} {g : Position → Option Position}
    (all : ∀ (p : Position) (c : Cell), s[p]? = some c → f p = some (g p)) :
    s.relocateInWords f = some (s.relocate g) := by
  unfold relocateInWords relocate
  rw [mapM_of_some (g := fun e => (g e.1).map fun q => (q, e.2))]
  · show some _ = some _
    rw [List.filterMap_map]
    rfl
  · rintro ⟨p, c⟩ mem
    dsimp only
    rw [all p c (Std.ExtTreeMap.mem_toList_iff_getElem?_eq_some.1 mem)]
    rfl

theorem insertLineInWords_eq (room : ∀ (p : Position) (c : Cell), s[p]? = some c →
    k ≤ p.along axis → p.along axis + 1 < axis.wordBound) :
    s.insertLineInWords axis k = some (s.insertLine axis k) :=
  relocateInWords_eq fun p c cell => by
    rw [openedAtInWords_of_lt (room p c cell)]
    rfl

theorem deleteLineInWords_eq (s : CellStore) (axis : Axis) (k : Nat) :
    s.deleteLineInWords axis k = some (s.deleteLine axis k) :=
  relocateInWords_eq fun p c cell => by
    rw [closedAtInWords_eq]
    rfl

end CellStore

/-! ## Matrices -/

namespace Matrix
variable {m : Matrix} {axis : Axis} {k : Nat}

/-- The matrix reaches as far as its words do, and its last line is free, so that nothing stops a
line from being inserted further ahead. -/
def Outgrows (m : Matrix) (axis : Axis) (k : Nat) : Prop :=
  k < m.size axis ∧ m.size axis + 1 = axis.wordBound ∧ m.cells.line axis (m.size axis - 1) = []

theorem checkPushedInWords_run (covered : m.Covered) (small : m.limits.along axis < axis.wordBound) :
    (m.checkPushedInWords axis k).run = some (match m.cells.bounds with
      | some b => if k ≤ b.last axis then m.limits.checkLine axis (b.last axis + 1) else .ok ()
      | none => .ok ()) := by
  unfold checkPushedInWords
  cases bounds : m.cells.bounds with
  | none => rfl
  | some b =>
      have reach := (CellStore.last_lt_iff bounds axis _).2 fun p c cell => covered.covers p c cell axis
      have within := covered.within axis
      dsimp only
      split
      · rw [InWords.word_bind (wordSum_of_lt (by omega))]
        rfl
      · rfl

theorem insertLineInWords_of_fits (covered : m.Covered)
    (small : m.limits.along axis < axis.wordBound) (fits : ¬ m.Outgrows axis k) :
    (m.insertLineInWords axis k).run = some (m.insertLine axis k) := by
  refine InWords.run_bind_of_some rfl fun _ inside =>
    InWords.run_bind_map (checkPushedInWords_run covered small) fun _ free => ?_
  have ok : ∃ m', m.insertLine axis k = .ok m' := by
    unfold insertLine
    rw [inside]
    exact ⟨_, map_eq_ok.2 ⟨_, free, rfl⟩⟩
  obtain ⟨m', ok⟩ := ok
  have room := (insertLine_ok ok).2
  rw [InWords.word_bind (CellStore.insertLineInWords_eq fun p c cell behind =>
    Nat.lt_trans (room p c cell behind) small)]
  split
  · rename_i before
    have within := covered.within axis
    -- The limits stop an insertion at full size unless the last line is free.
    have next : m.size axis + 1 < axis.wordBound := by
      refine Nat.lt_of_le_of_ne (by omega) fun full => fits ⟨before, full, ?_⟩
      rw [CellStore.line_eq_nil_iff]
      intro p c cell last
      have beyond := room p c cell (by omega)
      omega
    rw [InWords.word_bind (wordSum_of_lt next)]
    rfl
  · rfl

theorem insertLineInWords_of_outgrows (covered : m.Covered)
    (small : m.limits.along axis < axis.wordBound) (out : m.Outgrows axis k) :
    (m.insertLineInWords axis k).run = none := by
  obtain ⟨before, full, free⟩ := out
  have within := covered.within axis
  rw [CellStore.line_eq_nil_iff] at free
  have room : ∀ (p : Position) (c : Cell), m.cells[p]? = some c → p.along axis + 1 < m.limits.along axis := by
    intro p c cell
    have inside := covered.covers p c cell axis
    have other := free p c cell
    omega
  have inside : (InWords.demand (m.limits.checkLine axis k)).run = some (.ok ()) :=
    congrArg some (checkLine_eq_ok.2 (by omega))
  have pushed : (m.checkPushedInWords axis k).run = some (.ok ()) := by
    rw [checkPushedInWords_run covered small]
    cases bounds : m.cells.bounds with
    | none => rfl
    | some b =>
        have reach := (CellStore.last_lt_iff bounds axis (m.limits.along axis - 1)).2 fun p c cell => by
          have := room p c cell
          omega
        dsimp only
        split
        · exact congrArg some (checkLine_eq_ok.2 (by omega))
        · rfl
  unfold insertLineInWords
  rw [InWords.run_bind_ok inside, InWords.run_bind_ok pushed,
    InWords.word_bind (CellStore.insertLineInWords_eq fun p c cell _ =>
      Nat.lt_trans (room p c cell) small), if_pos before]
  exact InWords.word_bind_none (wordSum_of_le (by omega)) _

theorem not_outgrows_of_room (covered : m.Covered)
    (room : m.limits.along axis + 1 < axis.wordBound) : ¬ m.Outgrows axis k := by
  rintro ⟨_, full, _⟩
  have within := covered.within axis
  omega

theorem deleteLineInWords_run (m : Matrix) (axis : Axis) (k : Nat) :
    (m.deleteLineInWords axis k).run = some (m.deleteLine axis k) := by
  refine InWords.run_bind_map rfl fun _ _ => ?_
  rw [InWords.word_bind (CellStore.deleteLineInWords_eq m.cells axis k)]
  split
  · rw [InWords.word_bind (wordDifference_of_le (by omega))]
    rfl
  · rfl

end Matrix

/-! ## Sheets -/

namespace Sheet
variable {s : Sheet}

def CircularFormed (s : Sheet) : Prop :=
  ∀ (p : Position) (e : Expr), s.circular[p]? = some e → e.WellFormed

theorem attachInWords_eq (forced : Bool) (s : Sheet) (p : Position) :
    s.attachInWords forced p = some (s.attach forced p) := by
  unfold attachInWords
  split
  · rfl
  · rename_i e read
    rw [(wellFormed_of_parse read).precedentsInWords_eq]
    rfl

theorem CircularFormed.attach (h : s.CircularFormed) (forced : Bool) (p : Position) :
    (s.attach forced p).CircularFormed := by
  unfold Sheet.attach
  split
  · exact h
  · rename_i e read
    split
    · intro q e' stored
      rcases PositionMap.eq_or_of_insert_at stored with ⟨_, rfl⟩ | old
      · exact wellFormed_of_parse read
      · exact h q e' old
    · exact h

theorem CircularFormed.retryCell {state : Sheet × List Position} (h : state.1.CircularFormed)
    (p : Position) : (Sheet.retryCell state p).1.CircularFormed := by
  obtain ⟨s, healed⟩ := state
  unfold Sheet.retryCell
  dsimp only
  split
  · exact h
  · split
    · exact h
    · intro q e stored
      refine h q e ?_
      have left : (s.circular.erase p)[q]? = some e := stored
      rw [OrderedMap.erase_at] at left
      split at left
      · cases left
      · exact left

theorem CircularFormed.retryCellInWords_eq {state : Sheet × List Position}
    (h : state.1.CircularFormed) (p : Position) :
    retryCellInWords state p = some (Sheet.retryCell state p) := by
  unfold retryCellInWords
  split
  · rename_i none
    simp only [Sheet.retryCell, none]
  · rename_i e stored
    rw [(h p e stored).precedentsInWords_eq]
    rfl

theorem CircularFormed.attachAllInWords_eq (h : s.CircularFormed) (forced : Bool)
    (keys : List Position) :
    keys.foldlM (attachInWords forced) s = some (keys.foldl (Sheet.attach · forced) s) ∧
      (keys.foldl (Sheet.attach · forced) s).CircularFormed :=
  foldlM_of_some (fun s p _ => attachInWords_eq forced s p) (fun _ p h => h.attach forced p) h

theorem rebuildInWords_eq (s : Sheet) (circular : List Position) :
    s.rebuildInWords circular = some (s.rebuild circular) := by
  have bare : ({ s with graph := .empty, formulas := ∅, circular := ∅ } : Sheet).CircularFormed :=
    fun _ _ stored => (PositionMap.not_empty_at stored).elim
  obtain ⟨free, formed⟩ := bare.attachAllInWords_eq false
    (s.matrix.formulaCells.filter fun p => !(Std.ExtTreeSet.ofList circular : PositionSet).contains p)
  obtain ⟨forced, formed⟩ := formed.attachAllInWords_eq true
    (s.matrix.formulaCells.filter (Std.ExtTreeSet.ofList circular : PositionSet).contains)
  have retried : ∀ {s : Sheet}, s.CircularFormed → ∀ keys : List Position,
      keys.foldlM retryCellInWords (s, []) = some (keys.foldl Sheet.retryCell (s, [])) :=
    fun h keys => (foldlM_of_some (P := fun state => state.1.CircularFormed)
      (fun _ p h => h.retryCellInWords_eq p) (fun _ p h => h.retryCell p) h).1
  unfold rebuildInWords
  dsimp only
  rw [free, Option.bind_eq_bind, Option.bind_some, forced, Option.bind_some, retried formed]
  rfl

theorem moveTextInWords_eq (edit : LineEdit) (raw : String) :
    moveTextInWords edit raw = some (moveText edit raw) := by
  unfold moveTextInWords moveText
  split
  · cases read : parseFormula raw with
    | error fault => rfl
    | ok e =>
        dsimp only
        rw [(wellFormed_of_parse read).moved?InWords_eq]
        rfl
  · rfl

theorem moveTextsInWords_eq (edit : LineEdit) (cells : CellStore) :
    moveTextsInWords edit cells =
      some (cells.map fun _ c => { c with raw := moveText edit c.raw }) := by
  unfold moveTextsInWords
  rw [mapM_of_some (g := fun e => (e.1, { e.2 with raw := moveText edit e.2.raw }))]
  · rw [← OrderedMap.ofList_toList (cells.map _), Std.ExtTreeMap.toList_map]
    rfl
  · rintro ⟨p, c⟩ _
    dsimp only
    rw [moveTextInWords_eq]
    rfl

def Outgrows (s : Sheet) : LineEdit → Prop
  | .insert axis k => s.matrix.Outgrows axis k
  | .delete .. => False

theorem matrix_editLineInWords_run (covered : s.matrix.Covered)
    (small : ∀ axis, s.limits.along axis < axis.wordBound) (edit : LineEdit) :
    (s.Outgrows edit → (s.matrix.editLineInWords edit).run = none) ∧
      (¬ s.Outgrows edit → (s.matrix.editLineInWords edit).run = some (s.matrix.editLine edit)) := by
  cases edit with
  | insert axis k =>
      exact ⟨Matrix.insertLineInWords_of_outgrows covered (small axis),
        Matrix.insertLineInWords_of_fits covered (small axis)⟩
  | delete axis k => exact ⟨False.elim, fun _ => s.matrix.deleteLineInWords_run axis k⟩

theorem Sound.inside_of_circular (h : s.Sound) {p : Position} (mem : p ∈ s.circularCells) :
    s.limits.Contains p := by
  obtain ⟨e, circular⟩ := (PositionMap.mem_keys_iff _ _).1 mem
  obtain ⟨c, cell, _⟩ := h.toWired.stands_circular circular
  exact h.inside p c cell

theorem editLineInWords_run (h : s.Sound) (covered : s.matrix.Covered)
    (small : ∀ axis, s.limits.along axis < axis.wordBound) (edit : LineEdit) :
    (s.Outgrows edit → (s.editLineInWords edit).run = none) ∧
      (¬ s.Outgrows edit → (s.editLineInWords edit).run = some (s.editLine edit)) := by
  have circular : s.circularCells.mapM edit.movePositionInWords =
      some (s.circularCells.map edit.movePosition) := by
    refine mapM_of_some fun p mem => LineEdit.movePositionInWords_eq edit ?_
    have inside := Matrix.contains_iff_along.1 (h.inside_of_circular mem) edit.axis
    have within := small edit.axis
    have words := edit.axis.wordBound_le
    omega
  obtain ⟨out, fits⟩ := matrix_editLineInWords_run covered small edit
  unfold editLineInWords
  rw [InWords.word_bind circular]
  constructor
  · intro outgrows
    rw [ExceptT.run_bind, out outgrows]
    rfl
  · intro room
    refine InWords.run_bind_map (fits room) fun m _ => ?_
    rw [InWords.word_bind (moveTextsInWords_eq edit m.cells), List.filterMap_map, rebuildInWords_eq]
    rfl

theorem Wired.recalcAllInWords_eq (h : s.Wired) (cancelled : Bool) :
    s.recalcAllInWords cancelled = some (s.recalcAll cancelled) := by
  unfold recalcAllInWords
  rw [forM_of_some]
  · rfl
  · rintro ⟨p, e⟩ mem
    obtain ⟨_, _, parsed⟩ := h.parsed (Std.ExtTreeMap.mem_toList_iff_getElem?_eq_some.1 mem)
    exact (wellFormed_of_parse parsed).countInWords_eq _

end Sheet

end Spreadsheet
