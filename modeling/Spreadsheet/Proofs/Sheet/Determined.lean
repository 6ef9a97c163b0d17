import Spreadsheet.Proofs.Sheet.Recalculation

namespace Spreadsheet

def formulaOf? (raw : String) : Option Expr :=
  if isFormulaText raw then (parseFormula raw).toOption else none

def Cell.idle (raw : String) : Cell :=
  if isFormulaText raw then
    match parseFormula raw with
    | .error fault => Sheet.errorCell fault.code fault.message (.ofRaw raw)
    | .ok _ => Sheet.errorCell .circular Sheet.circularDiagnostic (.ofRaw raw)
  else .ofRaw raw

def CellView.shown (v : CellView) : String × CellValue × Option String := (v.raw, v.value, v.diagnostic)

namespace Entry

def raw (entry : Entry) : String := entry.cell.elim "" Cell.raw

theorem Settled.formula_or_circular {entry : Entry} (h : entry.Settled) :
    (entry.formula <|> entry.circular) = formulaOf? entry.raw := by
  cases h with
  | blank => rfl
  | @literal raw literal =>
      simp [Entry.raw, Matrix.raw_ofRaw, formulaOf?, literal]
  | @unparseable c fault isFormula parsed =>
      have isFormula : isFormulaText c.raw = true := isFormula
      simp [Entry.raw, Sheet.errorCell, formulaOf?, isFormula, parsed, Except.toOption]
  | @circular c e isFormula parsed =>
      have isFormula : isFormulaText c.raw = true := isFormula
      simp [Entry.raw, Sheet.errorCell, formulaOf?, isFormula, parsed, Except.toOption]
  | @accepted c e isFormula parsed _ =>
      have isFormula : isFormulaText c.raw = true := isFormula
      simp [Entry.raw, formulaOf?, isFormula, parsed, Except.toOption]

theorem Settled.idle {entry : Entry} (h : entry.Settled) (none : entry.formula = none) {c : Cell}
    (cell : entry.cell = some c) : c = .idle c.raw := by
  cases h with
  | blank => cases cell
  | @literal raw literal =>
      cases cell
      rw [Matrix.raw_ofRaw, Cell.idle, if_neg (by simp [literal])]
  | @unparseable c fault isFormula parsed =>
      cases cell
      have isFormula : isFormulaText c.raw = true := isFormula
      simp [Sheet.errorCell, Cell.idle, isFormula, parsed, Matrix.raw_ofRaw]
  | @circular c e isFormula parsed =>
      cases cell
      have isFormula : isFormulaText c.raw = true := isFormula
      simp [Sheet.errorCell, Cell.idle, isFormula, parsed, Matrix.raw_ofRaw]
  | accepted => cases none

theorem Settled.no_diagnostic {entry : Entry} (h : entry.Settled) {e : Expr}
    (formula : entry.formula = some e) : entry.cell.bind Cell.diagnostic = none := by
  cases h with
  | blank => cases formula
  | literal => cases formula
  | unparseable => cases formula
  | circular => cases formula
  | accepted _ _ clear => exact clear

end Entry

namespace Sheet

section
variable {s : Sheet}

theorem isCircular_eq (s : Sheet) (p : Position) : s.isCircular p = (s.circular[p]?).isSome :=
  Std.ExtTreeMap.contains_eq_isSome_getElem?

theorem Wired.maps_at (h : s.Wired) (p : Position) :
    (s.formulas[p]? = if s.isCircular p then none else formulaOf? (s.matrix.raw p)) ∧
      s.circular[p]? = if s.isCircular p then formulaOf? (s.matrix.raw p) else none := by
  have spelled : (s.formulas[p]? <|> s.circular[p]?) = formulaOf? (s.matrix.raw p) :=
    Entry.Settled.formula_or_circular (h.settled p)
  rw [isCircular_eq, ← spelled]
  cases circular : s.circular[p]? with
  | none => simp
  | some e => simp [h.not_accepted circular]

theorem Wired.formulas_at (h : s.Wired) (p : Position) :
    s.formulas[p]? = if s.isCircular p then none else formulaOf? (s.matrix.raw p) := (h.maps_at p).1

theorem Wired.circular_at (h : s.Wired) (p : Position) :
    s.circular[p]? = if s.isCircular p then formulaOf? (s.matrix.raw p) else none := (h.maps_at p).2

theorem Wired.spelled_of_circular (h : s.Wired) {p : Position} {e : Expr}
    (circular : s.circular[p]? = some e) : formulaOf? (s.matrix.raw p) = some e := by
  rw [h.circular_at] at circular
  split at circular
  · exact circular
  · cases circular

theorem Wired.value_at (h : s.Wired) {p : Position} (none : s.formulas[p]? = none) :
    s.matrix.value p = (Cell.idle (s.matrix.raw p)).value := by
  cases cell : s.matrix.cells[p]? with
  | none =>
      rw [value_of_absent cell, Matrix.raw, cell]
      rfl
  | some c =>
      rw [value_of_cell cell, Matrix.raw_of_cell cell]
      exact congrArg Cell.value (Entry.Settled.idle (h.settled p) none cell)

theorem Wired.diagnostic_at (h : s.Wired) (p : Position) :
    (s.matrix.cells[p]?).bind Cell.diagnostic =
      if s.formulas[p]? = none then (Cell.idle (s.matrix.raw p)).diagnostic else none := by
  split
  · rename_i none
    cases cell : s.matrix.cells[p]? with
    | none =>
        rw [Matrix.raw, cell]
        rfl
    | some c =>
        rw [Matrix.raw_of_cell cell]
        exact congrArg Cell.diagnostic (Entry.Settled.idle (h.settled p) none cell)
  · rename_i accepted
    obtain ⟨e, formula⟩ := Option.ne_none_iff_exists'.1 accepted
    exact Entry.Settled.no_diagnostic (h.settled p) formula

theorem view_shown (s : Sheet) (p : Position) : (s.view p).map CellView.shown =
    ((s.view p).map CellView.value).map fun v =>
      (s.matrix.raw p, v, (s.matrix.cells[p]?).bind Cell.diagnostic) := by
  unfold view Matrix.raw
  cases s.matrix.cells[p]? with
  | none => rfl
  | some c =>
      dsimp only
      split
      · cases evaluateCell s.resolver p _ <;> rfl
      · rfl

end

section
variable {s s' : Sheet}

theorem Wired.formulas_eq (h : s.Wired) (h' : s'.Wired)
    (raws : ∀ p, s'.matrix.raw p = s.matrix.raw p)
    (circular : ∀ p, s'.isCircular p = s.isCircular p) :
    s'.formulas = s.formulas ∧ s'.circular = s.circular := by
  constructor
  · refine Std.ExtTreeMap.ext_getElem? fun p => ?_
    rw [h.formulas_at, h'.formulas_at, raws, circular]
  · refine Std.ExtTreeMap.ext_getElem? fun p => ?_
    rw [h.circular_at, h'.circular_at, raws, circular]

theorem Wired.sameAt (h : s.Wired) (h' : s'.Wired) (raws : ∀ p, s'.matrix.raw p = s.matrix.raw p)
    (circular : ∀ p, s'.isCircular p = s.isCircular p) (p : Position) : SameAt s s' p := by
  obtain ⟨formulas, _⟩ := h.formulas_eq h' raws circular
  refine ⟨by rw [formulas], fun none => ?_⟩
  rw [h.value_at none, h'.value_at (by rw [formulas, none]), raws]

theorem Values.eq_of_raws {val val' : Position → Option CellValue} (values : s.Values val)
    (values' : s'.Values val') (h : s.Sound) (h' : s'.Sound) (limits : s'.limits = s.limits)
    (raws : ∀ p, s'.matrix.raw p = s.matrix.raw p) (circular : ∀ p, s'.isCircular p = s.isCircular p)
    (p : Position) : val' p = val p :=
  values.unchanged values' h h' limits (fun _ => False)
    (fun q _ => h.toWired.sameAt h'.toWired raws circular q) p (fun h => h) fun _ none => none.elim

theorem Truthful.shown_eq (h : s.Truthful) (h' : s'.Truthful) (limits : s'.limits = s.limits)
    (raws : ∀ p, s'.matrix.raw p = s.matrix.raw p)
    (circular : ∀ p, s'.isCircular p = s.isCircular p) (p : Position) :
    (s'.view p).map CellView.shown = (s.view p).map CellView.shown := by
  obtain ⟨val, values, fresh⟩ := h.fresh
  obtain ⟨val', values', fresh'⟩ := h'.fresh
  obtain ⟨formulas, _⟩ := h.toWired.formulas_eq h'.toWired raws circular
  rw [view_shown, view_shown, fresh.view h.toSound values, fresh'.view h'.toSound values',
    values.eq_of_raws values' h.toSound h'.toSound limits raws circular,
    h.toWired.diagnostic_at, h'.toWired.diagnostic_at, raws, formulas]

theorem shows_congr (same : ∀ p, (s'.view p).map CellView.shown = (s.view p).map CellView.shown) :
    s'.Shows ↔ s.Shows := by
  refine forall_congr' fun p => ?_
  rw [← Option.isSome_map (f := CellView.shown), same, Option.isSome_map]

end

end Sheet

end Spreadsheet
