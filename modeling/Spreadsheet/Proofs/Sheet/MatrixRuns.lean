import Spreadsheet.Proofs.Sheet.InPlace
import Spreadsheet.Proofs.Sheet.InWords

namespace Spreadsheet

inductive MatrixOperation
  | setRaw (p : Position) (raw : String)
  | remove (p : Position)
  | setDimensions (rows columns : Nat)
  | editLine (edit : LineEdit)
  | clear

namespace Matrix
open InPlace

def perform (m : Matrix) : MatrixOperation → Except GridError Matrix
  | .setRaw p raw => m.setRaw p raw
  | .remove p => .ok (m.remove p)
  | .setDimensions rows columns => m.setDimensions rows columns
  | .editLine edit => m.editLine edit
  | .clear => .ok m.clear

def performInPlace : MatrixOperation → InPlace Matrix Unit
  | .setRaw p raw => setRawInPlace p raw
  | .remove p => modify (·.remove p)
  | .setDimensions rows columns => setDimensionsInPlace rows columns
  | .editLine edit => editLineInPlace edit
  | .clear => modify clear

def performInWords (m : Matrix) : MatrixOperation → InWords Matrix
  | .setRaw p raw => m.setRawInWords p raw
  | .editLine edit => m.editLineInWords edit
  | op => .demand (m.perform op)

def run (m : Matrix) (ops : List MatrixOperation) : Matrix :=
  ops.foldl (fun m op => ((performInPlace op).on m).2) m

variable {m m' : Matrix} {op : MatrixOperation} {axis : Axis} {k : Nat}

theorem on_perform (m : Matrix) (op : MatrixOperation) :
    (performInPlace op).on m = allOrNothing m ((m.perform op).map fun m => (m, ())) := by
  cases op with
  | setRaw p raw => exact on_setRaw m p raw
  | remove p => rfl
  | setDimensions rows columns => exact on_setDimensions m rows columns
  | editLine edit => exact on_editLine m edit
  | clear => rfl

/-! ## Cells within the dimensions, dimensions within the limits -/

theorem Covered.remove (h : m.Covered) (p : Position) : (m.remove p).Covered := by
  refine ⟨fun axis => ?_, fun q c cell axis => ?_⟩
  · have within := h.within axis
    cases axis <;> exact within
  · rw [Matrix.remove, OrderedMap.erase_at] at cell
    split at cell
    · cases cell
    · have before := h.covers q c cell axis
      cases axis <;> exact before

theorem limits_editLine {edit : LineEdit} (ok : m.editLine edit = .ok m') : m'.limits = m.limits := by
  cases edit with
  | insert axis k => exact (insertLine_ok ok).1.2.1
  | delete axis k => exact (deleteLine_ok ok).2.1

theorem Covered.after_perform (h : m.Covered) (ok : m.perform op = .ok m') :
    m'.Covered ∧ m'.limits = m.limits := by
  cases op with
  | setRaw p raw =>
      obtain ⟨u, inside, rfl⟩ := map_eq_ok.1 ok
      exact ⟨h.put (check_iff.1 inside) raw, (put_frame m p raw).1⟩
  | remove p =>
      cases ok
      exact ⟨h.remove p, rfl⟩
  | setDimensions rows columns =>
      obtain ⟨rfl, covers⟩ := setDimensions_eq_ok.1 ok
      exact ⟨covered_resized_iff.2 covers, rfl⟩
  | editLine edit => exact ⟨h.editLine ok, limits_editLine ok⟩
  | clear =>
      cases ok
      exact ⟨covered_clear m, rfl⟩

theorem Covered.after_step (h : m.Covered) (op : MatrixOperation) :
    ((performInPlace op).on m).2.Covered ∧ ((performInPlace op).on m).2.limits = m.limits := by
  rw [on_perform]
  cases performed : m.perform op with
  | error fault => exact ⟨h, rfl⟩
  | ok m' => exact h.after_perform performed

theorem Covered.after_run (h : m.Covered) (ops : List MatrixOperation) :
    (m.run ops).Covered ∧ (m.run ops).limits = m.limits := by
  induction ops generalizing m with
  | nil => exact ⟨h, rfl⟩
  | cons op ops ih =>
      obtain ⟨covered, limits⟩ := h.after_step op
      obtain ⟨covered, kept⟩ := ih covered
      exact ⟨covered, kept.trans limits⟩

/-! ## Refusals -/

theorem unchanged_of_refused {fault : GridError} (refused : ((performInPlace op).on m).1 = .error fault) :
    ((performInPlace op).on m).2 = m := by
  rw [on_perform] at refused ⊢
  cases performed : m.perform op with
  | error fault => rfl
  | ok m' =>
      rw [performed] at refused
      cases refused

theorem isOk_insertLine_iff : (∃ m', m.insertLine axis k = .ok m') ↔ k < m.limits.along axis ∧
    ∀ (p : Position) (c : Cell), m.cells[p]? = some c → k ≤ p.along axis →
      p.along axis + 1 < m.limits.along axis := by
  constructor
  · rintro ⟨m', ok⟩
    obtain ⟨_, inside, _⟩ := bind_eq_ok.1 (show _ >>= _ = _ from ok)
    exact ⟨checkLine_eq_ok.1 inside, (insertLine_ok ok).2⟩
  · rintro ⟨inside, room⟩
    have before : m.limits.checkLine axis k = .ok () := checkLine_eq_ok.2 inside
    unfold insertLine
    rw [before]
    cases bounds : m.cells.bounds with
    | none => exact ⟨_, rfl⟩
    | some b =>
        -- Cells in front of the line are in front of the last line, too.
        have last := (CellStore.last_lt_iff bounds axis (m.limits.along axis - 1)).2 fun p c cell => by
          have behind := room p c cell
          omega
        have free : m.limits.checkLine axis (b.last axis + 1) = .ok () := checkLine_eq_ok.2 (by omega)
        dsimp only [Except.bind]
        rw [free, ite_self]
        exact ⟨_, rfl⟩

theorem Covered.insertLine_refused_iff (h : m.Covered) :
    (∃ fault, ((performInPlace (.editLine (.insert axis k))).on m).1 = .error fault) ↔
      m.limits.along axis ≤ k ∨ ∃ (p : Position) (c : Cell), m.cells[p]? = some c ∧ k ≤ p.along axis ∧
        p.along axis + 1 = m.limits.along axis := by
  have refused : (∃ fault, ((performInPlace (.editLine (.insert axis k))).on m).1 = .error fault) ↔
      ¬ ∃ m', m.insertLine axis k = .ok m' := by
    rw [on_perform]
    show (∃ fault, (allOrNothing m ((m.insertLine axis k).map _)).1 = .error fault) ↔ _
    cases m.insertLine axis k <;> simp [allOrNothing, Except.map]
  rw [refused, isOk_insertLine_iff, not_and_or, Nat.not_lt]
  refine or_congr_right ?_
  simp only [not_forall, exists_prop]
  refine exists_congr fun p => exists_congr fun c => and_congr_right fun cell => and_congr_right fun _ => ?_
  have inside := contains_iff_along.1 (h.contains cell) axis
  omega

/-! ## Machine words -/

theorem setRawInWords_run (small : ∀ axis, m.limits.along axis < axis.wordBound) (p : Position) (raw : String) :
    (m.setRawInWords p raw).run = some (m.setRaw p raw) := by
  refine InWords.run_bind_map rfl fun _ inside => ?_
  have inside := contains_iff_along.1 (check_iff.1 inside)
  have rows : p.row + 1 < rowWordBound := Nat.lt_of_le_of_lt (inside .row) (small .row)
  have columns : p.column + 1 < columnWordBound := Nat.lt_of_le_of_lt (inside .column) (small .column)
  rw [put]
  split
  · rfl
  · rw [InWords.word_bind (wordSum_of_lt rows), InWords.word_bind (wordSum_of_lt columns)]
    rfl

theorem Covered.performInWords_run (h : m.Covered) (room : ∀ axis, m.limits.along axis + 1 < axis.wordBound)
    (op : MatrixOperation) : (m.performInWords op).run = some (m.perform op) := by
  have small : ∀ axis, m.limits.along axis < axis.wordBound := fun axis => Nat.lt_of_succ_lt (room axis)
  cases op with
  | setRaw p raw => exact setRawInWords_run small p raw
  | remove p => rfl
  | setDimensions rows columns => rfl
  | clear => rfl
  | editLine edit =>
      cases edit with
      | insert axis k => exact insertLineInWords_of_fits h (small axis) (not_outgrows_of_room h (room axis))
      | delete axis k => exact deleteLineInWords_run m axis k

/-! ## The bounds of a matrix -/

/-- After any run of operations on a new matrix, refused ones among them, the cells lie within the dimensions
and the dimensions within the limits. A refusal changes nothing, a line is refused to be inserted exactly
beyond the limits or where a cell from it on lies on the last line of them, and no number that comes up on
the way is too large for its word. -/
theorem bounded_after_run {name : String} {limits : Limits} {m : Matrix} (created : create name limits = .ok m)
    (room : ∀ axis : Axis, limits.along axis + 1 < axis.wordBound) (ops : List MatrixOperation) :
    ((m.run ops).rows ≤ limits.rows ∧ (m.run ops).columns ≤ limits.columns ∧
      ∀ (p : Position) (c : Cell), (m.run ops).cells[p]? = some c →
        p.row < (m.run ops).rows ∧ p.column < (m.run ops).columns) ∧
    (∀ op fault, ((performInPlace op).on (m.run ops)).1 = .error fault →
      ((performInPlace op).on (m.run ops)).2 = m.run ops) ∧
    (∀ axis k, (∃ fault, ((performInPlace (.editLine (.insert axis k))).on (m.run ops)).1 = .error fault) ↔
      limits.along axis ≤ k ∨ ∃ (p : Position) (c : Cell), (m.run ops).cells[p]? = some c ∧
        k ≤ p.along axis ∧ p.along axis + 1 = limits.along axis) ∧
    ∀ op, ((m.run ops).performInWords op).run = some ((m.run ops).perform op) := by
  have kept : m.limits = limits := by
    obtain ⟨_, _, rfl⟩ := map_eq_ok.1 created
    rfl
  obtain ⟨covered, same⟩ := (storable_of_create created).toCovered.after_run ops
  rw [kept] at same
  have within := covered.within
  rw [same] at within
  refine ⟨⟨within .row, within .column, fun p c cell => ?_⟩, fun op fault => unchanged_of_refused,
    fun axis k => ?_, fun op => ?_⟩
  · exact ⟨covered.covers p c cell .row, covered.covers p c cell .column⟩
  · rw [covered.insertLine_refused_iff, same]
  · exact covered.performInWords_run (by rwa [same]) op

theorem fullMatrix_bounded : ∃ m, create "M" { rows := 3, columns := 3 } = .ok m ∧
    (∃ fault, ((performInPlace (.editLine (.insert .row 1))).on (m.run [.setRaw ⟨2, 0⟩ "x"])).1 = .error fault) ∧
    (m.run [.setRaw ⟨2, 0⟩ "x", .editLine (.insert .row 1), .setDimensions 9 9]).rows ≤ 3 := by
  have created : create "M" { rows := 3, columns := 3 } =
      .ok { name := "M", limits := { rows := 3, columns := 3 } } := by rfl
  have room : ∀ axis : Axis, ({ rows := 3, columns := 3 } : Limits).along axis + 1 < axis.wordBound := by
    intro axis
    cases axis <;> decide
  refine ⟨_, created, ?_, (bounded_after_run created room _).1.1⟩
  refine ((bounded_after_run created room _).2.2.1 .row 1).2 (.inr ⟨⟨2, 0⟩, .ofRaw "x", ?_, by decide, rfl⟩)
  have stored : ({ name := "M", limits := { rows := 3, columns := 3 } } : Matrix).run [.setRaw ⟨2, 0⟩ "x"] =
      ({ name := "M", limits := { rows := 3, columns := 3 } } : Matrix).put ⟨2, 0⟩ "x" := by
    rw [run, List.foldl_cons, List.foldl_nil, on_perform]
    rfl
  rw [stored, put_at]
  rfl

end Matrix

end Spreadsheet
