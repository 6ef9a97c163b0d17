import Spreadsheet.Proofs.Sheet.Wiring

namespace Spreadsheet

inductive Standing
  | literal
  | unparseable
  | circular
  | accepted
deriving DecidableEq

namespace Sheet

def Stands (s : Sheet) (p : Position) (c : Cell) : Standing → Prop
  | .literal => c.isFormula = false ∧ c.value = .ofLiteral c.raw ∧ c.dirty = false ∧ c.diagnostic = none
  | .unparseable => c.isFormula = true ∧ ∃ fault, parseFormula c.raw = .error fault ∧
      c.value = .error fault.code ∧ c.diagnostic = some fault.message ∧ c.dirty = false ∧
      s.graph.precedents.of p = ∅
  | .circular => c.isFormula = true ∧ ∃ e, parseFormula c.raw = .ok e ∧ s.circular[p]? = some e ∧
      c.value = .error .circular ∧ c.diagnostic = some circularDiagnostic ∧ c.dirty = false ∧
      s.graph.precedents.of p = ∅
  | .accepted => c.isFormula = true ∧ ∃ e, parseFormula c.raw = .ok e ∧ s.formulas[p]? = some e ∧
      c.diagnostic = none ∧ s.graph.precedents.of p = e.precedents s.limits

def standingOf (s : Sheet) (p : Position) (c : Cell) : Standing :=
  if c.isFormula then
    match parseFormula c.raw with
    | .error _ => .unparseable
    | .ok _ => if s.formulas[p]?.isSome then .accepted else .circular
  else .literal

structure Consistent (s : Sheet) : Prop where
  standing : ∀ (p : Position) (c : Cell), s.matrix.cells[p]? = some c →
    ∃ standing, s.Stands p c standing ∧ ∀ other, s.Stands p c other → other = standing
  formulas : ∀ (p : Position) (e : Expr), s.formulas[p]? = some e →
    ∃ c : Cell, s.matrix.cells[p]? = some c ∧ s.Stands p c .accepted
  circular : ∀ (p : Position) (e : Expr), s.circular[p]? = some e →
    ∃ c : Cell, s.matrix.cells[p]? = some c ∧ s.Stands p c .circular
  precedents : ∀ p, s.graph.precedents.of p ≠ ∅ →
    ∃ c : Cell, s.matrix.cells[p]? = some c ∧ s.Stands p c .accepted
  mirrored : s.graph.Mirrored
  acyclic : s.graph.Acyclic

section
variable {s : Sheet} {p : Position} {c : Cell}

theorem Linked.precedents_of (h : s.Linked) {formula : Option Expr} (found : s.formulas[p]? = formula) :
    s.graph.precedents.of p = formula.elim ∅ (·.precedents s.limits) := by
  rw [h.precedents, found]

theorem Wired.stands (h : s.Wired) (cell : s.matrix.cells[p]? = some c) :
    ∃ standing, s.Stands p c standing := by
  have settled := h.settled p
  unfold entry at settled
  rw [cell] at settled
  generalize formula : s.formulas[p]? = f at settled
  generalize circular : s.circular[p]? = k at settled
  have precedents := h.toLinked.precedents_of formula
  cases settled with
  | @literal raw literal =>
      refine ⟨.literal, ?_⟩
      rw [Cell.ofRaw, if_neg (by simp [literal])]
      exact ⟨literal, rfl, rfl, rfl⟩
  | @unparseable c fault isFormula parsed =>
      exact ⟨.unparseable, isFormula, fault, parsed, rfl, rfl, rfl, precedents⟩
  | @circular c e isFormula parsed =>
      exact ⟨.circular, isFormula, e, parsed, circular, rfl, rfl, rfl, precedents⟩
  | @accepted _ e isFormula parsed clear =>
      exact ⟨.accepted, isFormula, e, parsed, formula, clear, precedents⟩

theorem Wired.stands_accepted (h : s.Wired) {e : Expr} (formula : s.formulas[p]? = some e) :
    ∃ c : Cell, s.matrix.cells[p]? = some c ∧ s.Stands p c .accepted := by
  have settled := h.settled p
  unfold entry at settled
  rw [formula] at settled
  generalize s.matrix.cells[p]? = cell at settled
  generalize s.circular[p]? = circular at settled
  cases settled with
  | accepted isFormula parsed clear =>
      exact ⟨_, rfl, isFormula, e, parsed, formula, clear, h.toLinked.precedents_of formula⟩

theorem Wired.stands_circular (h : s.Wired) {e : Expr} (circular : s.circular[p]? = some e) :
    ∃ c : Cell, s.matrix.cells[p]? = some c ∧ s.Stands p c .circular := by
  have precedents := h.toLinked.precedents_of (h.not_accepted circular)
  have settled := h.settled p
  unfold entry at settled
  rw [circular] at settled
  generalize s.matrix.cells[p]? = cell at settled
  generalize s.formulas[p]? = formula at settled
  cases settled with
  | circular isFormula parsed =>
      exact ⟨_, rfl, isFormula, e, parsed, circular, rfl, rfl, rfl, precedents⟩

theorem Wired.stands_unique (h : s.Wired) {standing : Standing} (stands : s.Stands p c standing) :
    standing = s.standingOf p c := by
  unfold standingOf
  cases standing with
  | literal => rw [if_neg (by simp [stands.1])]
  | unparseable =>
      obtain ⟨isFormula, fault, refused, _⟩ := stands
      rw [if_pos isFormula, refused]
  | circular =>
      obtain ⟨isFormula, e, parsed, circular, _⟩ := stands
      rw [if_pos isFormula, parsed, h.not_accepted circular]
      rfl
  | accepted =>
      obtain ⟨isFormula, e, parsed, formula, _⟩ := stands
      rw [if_pos isFormula, parsed, formula]
      rfl

theorem Wired.consistent (h : s.Wired) : s.Consistent where
  standing p c cell := by
    obtain ⟨standing, stands⟩ := h.stands cell
    exact ⟨standing, stands, fun other stands' =>
      (h.stands_unique stands').trans (h.stands_unique stands).symm⟩
  formulas p e formula := h.stands_accepted formula
  circular p e circular := h.stands_circular circular
  precedents p some := by
    cases formula : s.formulas[p]? with
    | none => exact absurd (h.toLinked.precedents_of formula) some
    | some e => exact h.stands_accepted formula
  mirrored := h.mirrored
  acyclic := h.acyclic

end

end Sheet

end Spreadsheet
