import Spreadsheet.Proofs.Graph.Reachability
import Spreadsheet.Sheet.Wiring

namespace Spreadsheet

namespace Matrix

theorem update_at (m : Matrix) (p q : Position) (f : Cell → Cell) :
    (m.update p f).cells[q]? = if q = p then (m.cells[q]?).map f else m.cells[q]? := by
  unfold update
  cases cell : m.cells[p]? with
  | none =>
      by_cases same : q = p
      · rw [if_pos same, same, cell]
        rfl
      · rw [if_neg same]
  | some c =>
      dsimp only
      rw [OrderedMap.insert_at]
      by_cases same : q = p
      · rw [if_pos same, if_pos same, same, cell]
        rfl
      · rw [if_neg same, if_neg same]

theorem put_at (m : Matrix) (p q : Position) (raw : String) :
    (m.put p raw).cells[q]? =
      if q = p then (if raw = "" then none else some (.ofRaw raw)) else m.cells[q]? := by
  unfold put
  by_cases clear : raw = ""
  · rw [if_pos clear, if_pos clear]
    exact OrderedMap.erase_at _ _ _
  · rw [if_neg clear, if_neg clear]
    exact OrderedMap.insert_at _ _ _ _

theorem put_frame (m : Matrix) (p : Position) (raw : String) :
    (m.put p raw).limits = m.limits ∧ (m.put p raw).name = m.name := by
  unfold put
  split <;> exact ⟨rfl, rfl⟩

theorem raw_of_cell {m : Matrix} {p : Position} {c : Cell} (h : m.cells[p]? = some c) :
    m.raw p = c.raw := by
  rw [raw, h]
  rfl

end Matrix

structure Entry where
  cell : Option Cell
  formula : Option Expr
  circular : Option Expr

namespace Sheet

def entry (s : Sheet) (p : Position) : Entry where
  cell := s.matrix.cells[p]?
  formula := s.formulas[p]?
  circular := s.circular[p]?

def errorCell (code : ErrorCode) (diagnostic : String) (c : Cell) : Cell :=
  { c with value := .error code, dirty := false, diagnostic := some diagnostic }

def pendingCell (c : Cell) : Cell := { c with diagnostic := none, dirty := true }

theorem entry_detach (s : Sheet) (p q : Position) :
    (s.detach p).entry q = if q = p then ⟨s.matrix.cells[p]?, none, none⟩ else s.entry q := by
  unfold detach entry
  dsimp only
  rw [OrderedMap.erase_at, OrderedMap.erase_at]
  by_cases same : q = p
  · rw [if_pos same, if_pos same, if_pos same, same]
  · rw [if_neg same, if_neg same, if_neg same]

theorem entry_put (s : Sheet) (p q : Position) (raw : String) :
    ({ s with matrix := s.matrix.put p raw } : Sheet).entry q =
      if q = p then
        { s.entry p with cell := if raw = "" then none else some (.ofRaw raw) }
      else s.entry q := by
  unfold entry
  dsimp only
  rw [Matrix.put_at]
  by_cases same : q = p
  · rw [if_pos same, if_pos same, same]
  · rw [if_neg same, if_neg same]

theorem entry_showError (s : Sheet) (p q : Position) (code : ErrorCode) (diagnostic : String) :
    (s.showError p code diagnostic).entry q =
      if q = p then { s.entry p with cell := (s.entry p).cell.map (errorCell code diagnostic) }
      else s.entry q := by
  unfold showError entry Matrix.setDiagnostic Matrix.setValue
  dsimp only
  rw [Matrix.update_at, Matrix.update_at]
  by_cases same : q = p
  · rw [if_pos same, if_pos same, if_pos same, same, Option.map_map]
    rfl
  · rw [if_neg same, if_neg same, if_neg same]

theorem entry_refuse (s : Sheet) (p q : Position) (e : Expr) :
    (s.refuse p e).entry q =
      if q = p then
        ⟨(s.entry p).cell.map (errorCell .circular circularDiagnostic), s.formulas[p]?, some e⟩
      else s.entry q := by
  have shown := entry_showError s p q .circular circularDiagnostic
  unfold refuse
  unfold entry at shown ⊢
  dsimp only
  rw [OrderedMap.insert_at]
  by_cases same : q = p
  · rw [if_pos same] at shown ⊢
    rw [if_pos same]
    injection shown with cell formula _
    rw [cell, formula]
  · rw [if_neg same] at shown ⊢
    rw [if_neg same]
    exact shown

theorem entry_accept (s : Sheet) (p q : Position) (e : Expr) :
    (s.accept p e).entry q =
      if q = p then ⟨(s.entry p).cell.map pendingCell, some e, s.circular[p]?⟩ else s.entry q := by
  unfold accept entry Matrix.setDiagnostic Matrix.markDirty
  dsimp only
  rw [Matrix.update_at, Matrix.update_at, OrderedMap.insert_at]
  by_cases same : q = p
  · rw [if_pos same, if_pos same, if_pos same, if_pos same, same, Option.map_map]
    rfl
  · rw [if_neg same, if_neg same, if_neg same, if_neg same]

def SameFrame (s s' : Sheet) : Prop := s'.limits = s.limits ∧ s'.name = s.name

theorem SameFrame.trans {s s' s'' : Sheet} (h : SameFrame s s') (h' : SameFrame s' s'') :
    SameFrame s s'' := ⟨h'.1.trans h.1, h'.2.trans h.2⟩

end Sheet

end Spreadsheet
