import Spreadsheet.Proofs.Data.Outcome
import Spreadsheet.Proofs.Sheet.Entries
import Spreadsheet.Sheet.Recalc

namespace Spreadsheet

namespace Matrix

theorem raw_ofRaw (raw : String) : (Cell.ofRaw raw).raw = raw := by
  unfold Cell.ofRaw
  split <;> rfl

theorem texts_update (m : Matrix) (p q : Position) {f : Cell → Cell} (keeps : ∀ c, (f c).raw = c.raw) :
    ((m.update p f).cells[q]?).map Cell.raw = (m.cells[q]?).map Cell.raw := by
  rw [update_at]
  split
  · rw [Option.map_map]
    exact congrArg (fun g => Option.map g m.cells[q]?) (funext keeps)
  · rfl

def reread (m : Matrix) : Matrix := { m with cells := m.cells.map fun _ c => .ofRaw c.raw }

theorem reread_at (m : Matrix) (p : Position) :
    m.reread.cells[p]? = (m.cells[p]?).map fun c => .ofRaw c.raw :=
  Std.ExtTreeMap.getElem?_map

theorem text_reread (m : Matrix) (p : Position) :
    (m.reread.cells[p]?).map Cell.raw = (m.cells[p]?).map Cell.raw := by
  rw [reread_at, Option.map_map]
  exact congrArg (fun f => Option.map f m.cells[p]?) (funext fun c => raw_ofRaw c.raw)

theorem raw_eq_text (m : Matrix) (p : Position) :
    m.raw p = ((m.cells[p]?).map Cell.raw).getD "" := by
  unfold raw
  cases m.cells[p]? <;> rfl

section
variable {m m' : Matrix}

theorem text_of_reread (h : m'.reread = m.reread) (p : Position) :
    (m'.cells[p]?).map Cell.raw = (m.cells[p]?).map Cell.raw := by
  rw [← text_reread, h, text_reread]

theorem raw_of_reread (h : m'.reread = m.reread) (p : Position) : m'.raw p = m.raw p := by
  rw [raw_eq_text, text_of_reread h, ← raw_eq_text]

theorem limits_of_reread (h : m'.reread = m.reread) : m'.limits = m.limits := by
  show m'.reread.limits = m.reread.limits
  rw [h]

theorem name_of_reread (h : m'.reread = m.reread) : m'.name = m.name := by
  show m'.reread.name = m.reread.name
  rw [h]

theorem size_of_reread (h : m'.reread = m.reread) (axis : Axis) :
    m'.size axis = m.size axis := by
  have whole : m'.reread.size axis = m.reread.size axis := by rw [h]
  cases axis <;> exact whole

theorem cell_of_reread (h : m'.reread = m.reread) {p : Position} {c' : Cell}
    (cell : m'.cells[p]? = some c') : ∃ c, m.cells[p]? = some c ∧ c'.raw = c.raw := by
  have same := text_of_reread h p
  rw [cell] at same
  obtain ⟨c, before, raw⟩ := Option.map_eq_some_iff.1 same.symm
  exact ⟨c, before, raw.symm⟩

theorem cells_reread_of_texts
    (texts : ∀ p : Position, (m'.cells[p]?).map Cell.raw = (m.cells[p]?).map Cell.raw) :
    m'.reread.cells = m.reread.cells := by
  refine Std.ExtTreeMap.ext_getElem? fun p => ?_
  have same := congrArg (Option.map Cell.ofRaw) (texts p)
  rw [Option.map_map, Option.map_map] at same
  rw [reread_at, reread_at]
  exact same

end

theorem reread_reread (m : Matrix) : m.reread.reread = m.reread := by
  have cells : m.reread.reread.cells = m.reread.cells := cells_reread_of_texts fun p => text_reread m p
  exact congrArg (fun cells => { m with cells }) cells

theorem raw_reread (m : Matrix) (p : Position) : m.reread.raw p = m.raw p :=
  raw_of_reread m.reread_reread p

theorem update_eq (m : Matrix) (p : Position) (f : Cell → Cell) :
    m.update p f = { m with cells := (m.update p f).cells } := by
  unfold update
  split <;> rfl

theorem reread_update (m : Matrix) (p : Position) {f : Cell → Cell}
    (keeps : ∀ c, (f c).raw = c.raw) : (m.update p f).reread = m.reread := by
  have cells : (m.update p f).reread.cells = m.reread.cells :=
    cells_reread_of_texts fun q => texts_update m p q keeps
  unfold reread at cells ⊢
  rw [update_eq]
  dsimp only at cells ⊢
  rw [cells]

theorem reread_setValue (m : Matrix) (p : Position) (value : CellValue) :
    (m.setValue p value).reread = m.reread := reread_update m p fun _ => rfl

theorem reread_markDirty (m : Matrix) (p : Position) : (m.markDirty p).reread = m.reread :=
  reread_update m p fun _ => rfl

theorem reread_setDiagnostic (m : Matrix) (p : Position) (diagnostic : Option String) :
    (m.setDiagnostic p diagnostic).reread = m.reread := reread_update m p fun _ => rfl

theorem reread_put (m : Matrix) (p : Position) (raw : String) :
    (m.put p raw).reread = m.reread.put p raw := by
  have cells : (m.put p raw).reread.cells = (m.reread.put p raw).cells := by
    refine Std.ExtTreeMap.ext_getElem? fun q => ?_
    rw [reread_at, put_at, put_at, reread_at]
    split
    · split
      · rfl
      · rw [Option.map_some, raw_ofRaw]
    · rfl
  unfold put at cells ⊢
  split
  · rename_i clear
    rw [if_pos clear, if_pos clear] at cells
    exact congrArg (fun cells => { m with cells }) cells
  · rename_i keep
    rw [if_neg keep, if_neg keep] at cells
    exact congrArg (fun cells => { m with
      cells, rows := max m.rows (p.row + 1), columns := max m.columns (p.column + 1) }) cells

def putAll (m : Matrix) (texts : List (Position × String)) : Matrix :=
  texts.foldl (fun m edit => m.put edit.1 edit.2) m

theorem putAll_frame (m : Matrix) (texts : List (Position × String)) :
    (m.putAll texts).limits = m.limits ∧ (m.putAll texts).name = m.name := by
  induction texts generalizing m with
  | nil => exact ⟨rfl, rfl⟩
  | cons edit texts ih =>
      obtain ⟨limits, name⟩ := ih (m.put edit.1 edit.2)
      exact ⟨limits.trans (put_frame m _ _).1, name.trans (put_frame m _ _).2⟩

end Matrix

namespace Sheet

theorem limits_of_reread {s s' : Sheet} (h : s'.matrix.reread = s.matrix.reread) :
    s'.limits = s.limits := Matrix.limits_of_reread h

theorem frame_of_reread {s s' : Sheet} (h : s'.matrix.reread = s.matrix.reread) : SameFrame s s' :=
  ⟨limits_of_reread h, Matrix.name_of_reread h⟩

/-! ## Wiring -/

theorem reread_showError (s : Sheet) (p : Position) (code : ErrorCode) (diagnostic : String) :
    (s.showError p code diagnostic).matrix.reread = s.matrix.reread := by
  unfold showError
  rw [Matrix.reread_setDiagnostic, Matrix.reread_setValue]

theorem reread_accept (s : Sheet) (p : Position) (e : Expr) :
    (s.accept p e).matrix.reread = s.matrix.reread := by
  unfold accept
  rw [Matrix.reread_markDirty, Matrix.reread_setDiagnostic]

theorem reread_refuse (s : Sheet) (p : Position) (e : Expr) :
    (s.refuse p e).matrix.reread = s.matrix.reread :=
  reread_showError s p .circular circularDiagnostic

theorem reread_attach (s : Sheet) (forced : Bool) (p : Position) :
    (s.attach forced p).matrix.reread = s.matrix.reread := by
  unfold attach
  split
  · exact reread_showError s p _ _
  · split
    · exact reread_refuse s p _
    · exact reread_accept s p _

theorem reread_attachAll (forced : Bool) (ps : List Position) (s : Sheet) :
    (ps.foldl (attach · forced) s).matrix.reread = s.matrix.reread := by
  induction ps generalizing s with
  | nil => rfl
  | cons p ps ih => exact (ih _).trans (reread_attach s forced p)

theorem reread_retryCell (state : Sheet × List Position) (p : Position) :
    (retryCell state p).1.matrix.reread = state.1.matrix.reread := by
  obtain ⟨s, healed⟩ := state
  unfold retryCell
  dsimp only
  split
  · rfl
  · split
    · rfl
    · exact reread_accept { s with circular := s.circular.erase p } p _

theorem reread_retryAll (ps : List Position) (state : Sheet × List Position) :
    (ps.foldl retryCell state).1.matrix.reread = state.1.matrix.reread := by
  induction ps generalizing state with
  | nil => rfl
  | cons p ps ih => exact (ih _).trans (reread_retryCell state p)

theorem reread_rebuild (s : Sheet) (circular : List Position) :
    (s.rebuild circular).matrix.reread = s.matrix.reread := by
  unfold rebuild retryCircular
  dsimp only
  rw [reread_retryAll, reread_attachAll, reread_attachAll]

theorem reread_writeCell (s : Sheet) (p : Position) (raw : String) :
    (s.writeCell p raw).matrix.reread = s.matrix.reread.put p raw := by
  unfold writeCell
  dsimp only
  split
  · rw [reread_attach]
    exact s.matrix.reread_put p raw
  · exact s.matrix.reread_put p raw

theorem reread_writeCells (s : Sheet) (edits : List (Position × String)) :
    (s.writeCells edits).1.matrix.reread = s.matrix.reread.putAll edits := by
  have written : ∀ s : Sheet, (edits.foldl (fun s edit => s.writeCell edit.1 edit.2) s).matrix.reread =
      s.matrix.reread.putAll edits := by
    induction edits with
    | nil => exact fun _ => rfl
    | cons edit edits ih =>
        intro s
        rw [List.foldl_cons, ih, reread_writeCell]
        rfl
  unfold writeCells retryCircular
  dsimp only
  rw [reread_retryAll, written]

theorem frame_writeCells (s : Sheet) (edits : List (Position × String)) :
    SameFrame s (s.writeCells edits).1 := by
  obtain ⟨limits, name⟩ := s.matrix.reread.putAll_frame edits
  rw [← reread_writeCells] at limits name
  exact ⟨limits, name⟩

/-! ## Recalculation -/

theorem reread_evaluateAt {state state' : Sheet × RecalcStats} {p : Position}
    (ran : evaluateAt state p = some state') : state'.1.matrix.reread = state.1.matrix.reread := by
  obtain ⟨s, stats⟩ := state
  unfold evaluateAt at ran
  dsimp only at ran
  cases formula : s.formulas[p]? with
  | none =>
      rw [formula] at ran
      cases ran
      rfl
  | some e =>
      rw [formula] at ran
      obtain ⟨value, _, rfl⟩ := Option.map_eq_some_iff.1 ran
      exact s.matrix.reread_setValue p value

theorem reread_markAll (ps : List Position) (s : Sheet) :
    (ps.foldl markDirty s).matrix.reread = s.matrix.reread := by
  induction ps generalizing s with
  | nil => rfl
  | cons p ps ih => exact (ih _).trans (s.matrix.reread_markDirty p)

variable {s s' : Sheet} {set : PositionSet} {cancelled : Bool} {stats : RecalcStats}

theorem recalcCells_eq_some (ran : s.recalcCells set cancelled = some (s', stats)) :
    s' = s ∨ s' = set.toList.foldl markDirty s ∨ ∃ (order : List Position) (stats' : RecalcStats),
      order.foldlM evaluateAt (set.toList.foldl markDirty s, {}) = some (s', stats') := by
  unfold recalcCells at ran
  split at ran
  · cases ran
    exact .inl rfl
  · split at ran
    · cases ran
      exact .inr (.inl rfl)
    · obtain ⟨⟨s₁, stats₁⟩, evaluated, same⟩ := Option.bind_eq_some_iff.1 ran
      cases same
      exact .inr (.inr ⟨_, _, evaluated⟩)

theorem reread_recalcCells (ran : s.recalcCells set cancelled = some (s', stats)) :
    s'.matrix.reread = s.matrix.reread := by
  rcases recalcCells_eq_some ran with rfl | rfl | ⟨order, stats', evaluated⟩
  · rfl
  · exact reread_markAll _ s
  · refine (foldlM_kept (P := fun state => state.1.matrix.reread = (set.toList.foldl markDirty s).matrix.reread)
      (fun _ _ _ same ran => (reread_evaluateAt ran).trans same) rfl evaluated).trans (reread_markAll _ s)

theorem frame_recalcCells (ran : s.recalcCells set cancelled = some (s', stats)) : SameFrame s s' :=
  frame_of_reread (reread_recalcCells ran)

end Sheet

end Spreadsheet
