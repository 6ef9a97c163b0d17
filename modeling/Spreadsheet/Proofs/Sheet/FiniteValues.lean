import Spreadsheet.Proofs.Eval.FiniteValues
import Spreadsheet.Proofs.Sheet.Recalculation

namespace Spreadsheet

namespace Matrix

def Finite (m : Matrix) : Prop :=
  ∀ (p : Position) (c : Cell), m.cells[p]? = some c → c.value.Finite

variable {m : Matrix}

theorem Finite.update (h : m.Finite) (p : Position) {f : Cell → Cell}
    (keeps : ∀ c, c.value.Finite → (f c).value.Finite) : (m.update p f).Finite := by
  intro q c cell
  rw [update_at] at cell
  split at cell
  · obtain ⟨c', before, rfl⟩ := Option.map_eq_some_iff.1 cell
    exact keeps c' (h q c' before)
  · exact h q c cell

theorem finite_ofRaw (raw : String) : (Cell.ofRaw raw).value.Finite := by
  unfold Cell.ofRaw
  split
  · exact CellValue.finite_empty
  · apply CellValue.finite_ofLiteral

theorem Finite.put (h : m.Finite) (p : Position) (raw : String) : (m.put p raw).Finite := by
  intro q c cell
  rw [put_at] at cell
  split at cell
  · split at cell
    · cases cell
    · cases cell
      apply finite_ofRaw
  · exact h q c cell

end Matrix

namespace Sheet
variable {s : Sheet}

/-! ## Wiring -/

theorem finite_showError (h : s.matrix.Finite) (p : Position) (code : ErrorCode) (diagnostic : String) :
    (s.showError p code diagnostic).matrix.Finite := by
  have shown : (s.matrix.setValue p (.error code)).Finite :=
    h.update p fun _ _ => CellValue.finite_error code
  exact shown.update p fun _ finite => finite

theorem finite_accept (h : s.matrix.Finite) (p : Position) (e : Expr) :
    (s.accept p e).matrix.Finite := by
  have cleared : (s.matrix.setDiagnostic p none).Finite := h.update p fun _ finite => finite
  exact cleared.update p fun _ finite => finite

theorem finite_attach (h : s.matrix.Finite) (forced : Bool) (p : Position) :
    (s.attach forced p).matrix.Finite := by
  rcases attach_cases s forced p with ⟨fault, _, same⟩ | ⟨e, _, _, same⟩ | ⟨e, _, _, same⟩
  · rw [same]
    exact finite_showError h p _ _
  · rw [same]
    exact finite_showError h p _ _
  · rw [same]
    exact finite_accept h p e

theorem finite_writeCell (h : s.matrix.Finite) (p : Position) (raw : String) :
    (s.writeCell p raw).matrix.Finite := by
  have stored : (s.matrix.put p raw).Finite := h.put p raw
  unfold writeCell
  dsimp only
  split
  · exact finite_attach stored false p
  · exact stored

theorem finite_retryAll (h : s.matrix.Finite) (ps healed : List Position) :
    (ps.foldl retryCell (s, healed)).1.matrix.Finite := by
  induction ps generalizing s healed with
  | nil => exact h
  | cons p ps ih =>
      rw [List.foldl_cons]
      rcases retry_cases s healed p with ⟨same, _⟩ | ⟨e, _, _, same⟩
      · rw [same]
        exact ih h healed
      · rw [same]
        apply ih
        exact finite_accept h p e

theorem finite_writeCells (h : s.matrix.Finite) (edits : List (Position × String)) :
    (s.writeCells edits).1.matrix.Finite := by
  have written : (edits.foldl (fun s edit => s.writeCell edit.1 edit.2) s).matrix.Finite := by
    induction edits generalizing s with
    | nil => exact h
    | cons edit edits ih => exact ih (finite_writeCell h edit.1 edit.2)
  exact finite_retryAll written _ []

/-! ## Values -/

theorem Settled.finite {c : Cell} {circular : Option Expr}
    (h : Entry.Settled ⟨some c, none, circular⟩) : c.value.Finite := by
  cases h with
  | literal => apply Matrix.finite_ofRaw
  | unparseable | circular => apply CellValue.finite_error

theorem Wired.finite_unless_accepted (h : s.Wired) {p : Position} {c : Cell}
    (cell : s.matrix.cells[p]? = some c) (formula : s.formulas[p]? = none) : c.value.Finite := by
  have settled := h.settled p
  unfold entry at settled
  rw [cell, formula] at settled
  exact Settled.finite settled

def TotalsFinite (s : Sheet) : Prop :=
  ∀ (p : Position) (e : Expr), s.formulas[p]? = some e →
    e.TotalsFinite s.limits fun q => .ofOption ((s.view q).map CellView.value)

theorem totalsFinite_of_keys (h : ∀ p ∈ s.formulas.keys, ∀ e, s.formulas[p]? = some e →
    e.TotalsFinite s.limits fun q => .ofOption ((s.view q).map CellView.value)) : s.TotalsFinite :=
  fun p e found => h p ((PositionMap.mem_keys_iff _ p).2 ⟨e, found⟩) e found

theorem Values.finite {val : Position → Option CellValue} (values : s.Values val) (h : s.Sound)
    (totals : ∀ (p : Position) (e : Expr), s.formulas[p]? = some e →
      e.TotalsFinite s.limits fun q => .ofOption (val q)) (p : Position) :
    ∀ v, val p = some v → v.Finite := by
  -- The induction goes along the graph, so a formula is met after the cells it refers to.
  induction p using h.acyclic.wellFounded.induction with
  | _ p ih =>
      intro v shown
      cases formula : s.formulas[p]? with
      | none =>
          rw [values.stored p formula] at shown
          obtain rfl := Option.some.inj shown
          cases cell : s.matrix.cells[p]? with
          | none =>
              rw [value_of_absent cell]
              exact CellValue.finite_empty
          | some c =>
              rw [value_of_cell cell]
              exact h.finite_unless_accepted cell formula
      | some e =>
          obtain ⟨w, value, same⟩ := values.computed p e formula
          obtain ⟨c, _, parsed⟩ := h.toWired.parsed formula
          have bounded : e.Bounded s.limits fun q => .ofOption (val q) := by
            refine ⟨fun q c mentions read => ?_, totals p e formula⟩
            have read := ofOption_eq_ok.1 read
            rcases h.mentioned formula mentions with edge | outside
            · exact ih q edge c read
            · rw [values.beyond h outside] at read
              obtain rfl := Option.some.inj read
              exact CellValue.finite_empty
          rw [same] at shown
          obtain ⟨w, rfl, rfl⟩ := Option.map_eq_some_iff.1 shown
          exact (bounded.eval_finite (wellFormed_of_parse parsed) value).toCell

theorem Truthful.finite (h : s.Truthful) (totals : s.TotalsFinite)
    (stale : ∀ (p : Position) (c : Cell), s.matrix.cells[p]? = some c → c.dirty = true → c.value.Finite) :
    s.matrix.Finite := by
  obtain ⟨val, values, fresh⟩ := h.fresh
  have finite : ∀ p v, val p = some v → v.Finite := by
    apply values.finite h.toSound
    intro p e formula
    have same := totals p e formula
    simpa only [fresh.view h.toSound values] using same
  intro p c cell
  cases formula : s.formulas[p]? with
  | none => exact h.finite_unless_accepted cell formula
  | some e =>
      cases dirty : c.dirty with
      | true => exact stale p c cell dirty
      | false => exact finite p c.value (fresh p c cell (by simp [formula]) dirty)

/-! ## Recalculation -/

variable {s' : Sheet} {stats : RecalcStats}

theorem value_of_dirty {val : Position → Option CellValue} (h : s.Sound) (values : s.Values val)
    {set : PositionSet} (accepted : ∀ p, p ∈ set → s.formulas[p]? ≠ none)
    (outside : (s.mapCells (Sheet.stale (· ∈ set))).Fresh val) {cancelled : Bool}
    (ran : s.recalcCells set cancelled = some (s', stats)) {p : Position} {c : Cell}
    (cell : s'.matrix.cells[p]? = some c) (dirty : c.dirty = true) :
    ∃ c', s.matrix.cells[p]? = some c' ∧ c.value = c'.value := by
  rw [recalcCells_eq h values accepted outside ran, cells_mapCells] at cell
  obtain ⟨c', before, rfl⟩ := Option.map_eq_some_iff.1 cell
  refine ⟨c', before, ?_⟩
  cases cancelled with
  | true =>
      show (Sheet.stale _ p c').value = _
      unfold Sheet.stale
      split <;> rfl
  | false =>
      have dirty : (settle (· ∈ set) val p c').dirty = true := dirty
      show (settle _ val p c').value = _
      unfold settle at dirty ⊢
      split at dirty
      · cases dirty
      · rename_i untouched
        rw [if_neg untouched]

theorem finite_recalcCells {val : Position → Option CellValue} (h : s.Sound) (values : s.Values val)
    {set : PositionSet} (accepted : ∀ p, p ∈ set → s.formulas[p]? ≠ none)
    (outside : (s.mapCells (Sheet.stale (· ∈ set))).Fresh val) {cancelled : Bool}
    (ran : s.recalcCells set cancelled = some (s', stats)) (finite : s.matrix.Finite)
    (totals : s'.TotalsFinite) : s'.matrix.Finite := by
  obtain ⟨sound, values', fresh⟩ := recalcCells_spec h values accepted outside ran
  have truthful : s'.Truthful := ⟨sound, val, values', fresh⟩
  apply truthful.finite totals
  intro p c cell dirty
  obtain ⟨c', before, same⟩ := value_of_dirty h values accepted outside ran cell dirty
  rw [same]
  exact finite p c' before

theorem Sound.finite_recalcAll (h : s.Sound) (ran : s.recalcAll false = some (s', stats))
    (totals : s'.TotalsFinite) : s'.matrix.Finite := by
  apply (h.recalcAll ran).finite totals
  intro p c cell dirty
  rw [h.recalcAll_clean ran cell] at dirty
  cases dirty

end Sheet

end Spreadsheet
