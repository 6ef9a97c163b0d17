import Spreadsheet.Proofs.Eval.Dependence
import Spreadsheet.Proofs.Eval.Parts
import Spreadsheet.Proofs.Sheet.Sound

/-!
# The values of a sheet

The graph of a sound sheet has no cycle, so there is one way to give every cell a value: what it
stores, or what its accepted formula evaluates to, which is none where evaluation crashes. Reading
through any mix of fresh and stale cells gives these values, because evaluation on demand never meets a
cell it is already evaluating.
-/

namespace Spreadsheet

namespace Sheet
open Relation (TransGen)

structure Values (s : Sheet) (val : Position → Option CellValue) : Prop where
  stored : ∀ p : Position, s.formulas[p]? = none → val p = some (s.matrix.value p)
  computed : ∀ (p : Position) (e : Expr), s.formulas[p]? = some e →
    ∃ v, e.eval s.limits (fun q => .ofOption (val q)) = .ofOption v ∧ val p = v.map FormulaValue.toCell

/-- Accepted formulas that are not stale store their values. -/
def Fresh (s : Sheet) (val : Position → Option CellValue) : Prop :=
  ∀ (p : Position) (c : Cell), s.matrix.cells[p]? = some c → s.formulas[p]? ≠ none →
    c.dirty = false → val p = some c.value

/-- Reading a cell never crashes. -/
def Shows (s : Sheet) : Prop := ∀ p, (s.view p).isSome = true

theorem Settled.parsed {cell : Option Cell} {circular : Option Expr} {e : Expr}
    (h : Entry.Settled ⟨cell, some e, circular⟩) :
    ∃ c, cell = some c ∧ parseFormula c.raw = .ok e := by
  cases h with
  | accepted _ parsed _ => exact ⟨_, rfl, parsed⟩

theorem Wired.parsed {s : Sheet} (h : s.Wired) {p : Position} {e : Expr}
    (formula : s.formulas[p]? = some e) :
    ∃ c, s.matrix.cells[p]? = some c ∧ parseFormula c.raw = .ok e := by
  have settled := h.settled p
  unfold entry at settled
  rw [formula] at settled
  exact Settled.parsed settled

theorem Wired.not_stored {s : Sheet} (h : s.Wired) {p : Position}
    (absent : s.matrix.cells[p]? = none) : s.formulas[p]? = none := by
  cases formula : s.formulas[p]? with
  | none => rfl
  | some e =>
      obtain ⟨c, cell, _⟩ := h.parsed formula
      rw [absent] at cell
      cases cell

theorem value_of_absent {s : Sheet} {p : Position} (absent : s.matrix.cells[p]? = none) :
    s.matrix.value p = .empty := by
  rw [Matrix.value, absent]
  rfl

theorem value_of_cell {s : Sheet} {p : Position} {c : Cell} (cell : s.matrix.cells[p]? = some c) :
    s.matrix.value p = c.value := by
  rw [Matrix.value, cell]
  rfl

theorem Sound.mentioned {s : Sheet} (h : s.Sound) {p q : Position} {e : Expr}
    (formula : s.formulas[p]? = some e) (mentions : e.Mentions q) :
    s.graph.Edge q p ∨ ¬ s.limits.Contains q := by
  by_cases inside : s.limits.Contains q
  · exact .inl (h.edge_iff.2 ⟨e, formula, Expr.mem_precedents.2 ⟨mentions, inside⟩⟩)
  · exact .inr inside

theorem Sound.beyond {s : Sheet} (h : s.Sound) {p : Position} (outside : ¬ s.limits.Contains p) :
    s.matrix.cells[p]? = none ∧ s.formulas[p]? = none := by
  have absent : s.matrix.cells[p]? = none := by
    cases cell : s.matrix.cells[p]? with
    | none => rfl
    | some c => exact absurd (h.inside p c cell) outside
  exact ⟨absent, h.toWired.not_stored absent⟩

theorem Values.beyond {s : Sheet} {val : Position → Option CellValue} (values : s.Values val) (h : s.Sound)
    {p : Position} (outside : ¬ s.limits.Contains p) : val p = some .empty := by
  obtain ⟨absent, noFormula⟩ := h.beyond outside
  rw [values.stored p noFormula, value_of_absent absent]

/-! ## Existence -/

def valueFrom (s : Sheet) (p : Position)
    (before : ∀ q, s.graph.Edge q p → Option CellValue) : Option CellValue :=
  match s.formulas[p]? with
  | none => some (s.matrix.value p)
  | some e =>
    match e.eval s.limits fun q =>
      .ofOption (if edge : s.graph.Edge q p then before q edge else some .empty) with
    | .ok v => some v.toCell
    | .error _ => none

theorem Sound.exists_values {s : Sheet} (h : s.Sound) : ∃ val, s.Values val := by
  let val := h.acyclic.wellFounded.fix s.valueFrom
  have unfolds : ∀ p, val p = s.valueFrom p fun q _ => val q :=
    fun p => WellFounded.fix_eq _ s.valueFrom p
  have stored : ∀ p : Position, s.formulas[p]? = none → val p = some (s.matrix.value p) := by
    intro p noFormula
    rw [unfolds p, valueFrom, noFormula]
  refine ⟨val, stored, fun p e formula => ?_⟩
  obtain ⟨c, _, parsed⟩ := h.toWired.parsed formula
  obtain ⟨v, value⟩ : ∃ v, e.eval s.limits (fun q => .ofOption (val q)) = .ofOption v :=
    (wellFormed_of_parse parsed).eval_total fun q => ⟨val q, rfl⟩
  refine ⟨v, value, ?_⟩
  have agree : ∀ q, e.Mentions q →
      (.ofOption (if _ : s.graph.Edge q p then val q else some .empty) : Reading CellValue) =
        .ofOption (val q) := by
    intro q mentions
    rcases h.mentioned formula mentions with edge | outside
    · rw [dif_pos edge]
    · obtain ⟨absent, noFormula⟩ := h.beyond outside
      rw [stored q noFormula, value_of_absent absent]
      split <;> rfl
  rw [unfolds p, valueFrom, formula]
  dsimp only
  rw [Expr.eval_congr e agree, value]
  cases v <;> rfl

/-! ## Reading -/

structure Reads (r : Resolver) (s : Sheet) (val : Position → Option CellValue) : Prop where
  limits : r.limits = s.limits
  cells : ∀ p, (∃ v, val p = some v ∧ r.lookup p = .settled v) ∨
    ∃ e, s.formulas[p]? = some e ∧ r.lookup p = .pending e

theorem read_of_settled {r : Resolver} {val : Position → Option CellValue} {p : Position} {v : CellValue}
    (value : val p = some v) (settled : r.lookup p = .settled v) (visiting : List Position) :
    r.read visiting p = .ofOption (val p) := by
  rw [Resolver.read_settled settled, value]
  rfl

theorem Reads.mentioned {r : Resolver} {s : Sheet} {val : Position → Option CellValue}
    (reads : Reads r s val) (h : s.Sound) {p : Position} {e : Expr} (formula : s.formulas[p]? = some e)
    {visiting : List Position}
    (precedents : ∀ q, s.graph.Edge q p → r.read visiting q = .ofOption (val q)) :
    ∀ q, e.Mentions q → r.read visiting q = .ofOption (val q) := by
  intro q mentions
  rcases h.mentioned formula mentions with edge | outside
  · exact precedents q edge
  · rcases reads.cells q with ⟨v, value, settled⟩ | ⟨_, found, _⟩
    · exact read_of_settled value settled visiting
    · rw [(h.beyond outside).2] at found
      cases found

theorem Reads.read {r : Resolver} {s : Sheet} {val : Position → Option CellValue} (reads : Reads r s val)
    (h : s.Sound) (values : s.Values val) (p : Position) :
    ∀ visiting, (∀ q ∈ visiting, TransGen s.graph.Edge p q) → r.read visiting p = .ofOption (val p) := by
  -- Whatever is pending, a cell is read as its value. Cells under evaluation all depend on the cell
  -- that is read next, which therefore is not among them.
  induction p using h.acyclic.wellFounded.induction with
  | _ p ih =>
      intro visiting depend
      rcases reads.cells p with ⟨v, value, settled⟩ | ⟨e, formula, pending⟩
      · exact read_of_settled value settled visiting
      · -- A cell under evaluation depends on `p`, so `p` would depend on itself.
        have fresh : ¬ p ∈ visiting := fun mem => h.acyclic p (depend p mem)
        have precedents : ∀ q, e.Mentions q → r.read (p :: visiting) q = .ofOption (val q) := by
          refine reads.mentioned h formula fun q edge => ih q edge (p :: visiting) fun a mem => ?_
          rcases List.mem_cons.1 mem with rfl | later
          · exact .single edge
          · exact (TransGen.single edge).trans (depend a later)
        obtain ⟨v, value, eq⟩ := values.computed p e formula
        rw [Resolver.read_pending pending fresh, reads.limits, Expr.eval_congr e precedents, value, eq,
          map_ofOption]

theorem Reads.evaluateCell {r : Resolver} {s : Sheet} {val : Position → Option CellValue}
    (reads : Reads r s val) (h : s.Sound) (values : s.Values val) {p : Position} {e : Expr}
    (formula : s.formulas[p]? = some e) : evaluateCell r p e = val p := by
  have precedents : ∀ q, e.Mentions q → r.read [p] q = .ofOption (val q) := by
    refine reads.mentioned h formula fun q edge => reads.read h values q [p] fun a mem => ?_
    rw [List.mem_singleton.1 mem]
    exact .single edge
  obtain ⟨v, value, eq⟩ := values.computed p e formula
  rw [Spreadsheet.evaluateCell, evaluate, reads.limits, Expr.eval_congr e precedents, value, eq]
  cases v <;> rfl

theorem Fresh.reads {s : Sheet} {val : Position → Option CellValue} (fresh : s.Fresh val) (h : s.Sound)
    (values : s.Values val) : Reads s.resolver s val := by
  refine ⟨rfl, fun p => ?_⟩
  show (∃ v, _ ∧ s.lookup p = _) ∨ ∃ e, _ ∧ s.lookup p = _
  unfold lookup
  cases cell : s.matrix.cells[p]? with
  | none =>
      refine .inl ⟨.empty, ?_, rfl⟩
      rw [values.stored p (h.toWired.not_stored cell), value_of_absent cell]
  | some c =>
      cases formula : s.formulas[p]? with
      | none =>
          refine .inl ⟨c.value, ?_, ?_⟩
          · rw [values.stored p formula, value_of_cell cell]
          · cases dirty : c.dirty <;> simp [dirty]
      | some e =>
          cases dirty : c.dirty with
          | true => exact .inr ⟨e, rfl, by simp [dirty]⟩
          | false => exact .inl ⟨c.value, fresh p c cell (by simp [formula]) dirty, by simp [dirty]⟩

theorem Fresh.view {s : Sheet} {val : Position → Option CellValue} (fresh : s.Fresh val) (h : s.Sound)
    (values : s.Values val) (p : Position) : (s.view p).map CellView.value = val p := by
  unfold Sheet.view
  cases cell : s.matrix.cells[p]? with
  | none =>
      rw [values.stored p (h.toWired.not_stored cell), value_of_absent cell]
      rfl
  | some c =>
      cases formula : s.formulas[p]? with
      | none => rw [values.stored p formula, value_of_cell cell, Option.map_some]
      | some e =>
          cases dirty : c.dirty with
          | true =>
              simp only [dirty]
              rw [(fresh.reads h values).evaluateCell h values formula]
              cases val p <;> rfl
          | false =>
              simp only [dirty]
              exact (fresh p c cell (by simp [formula]) dirty).symm

theorem Fresh.shows_iff {s : Sheet} {val : Position → Option CellValue} (fresh : s.Fresh val) (h : s.Sound)
    (values : s.Values val) : s.Shows ↔ ∀ p, (val p).isSome = true := by
  refine forall_congr' fun p => ?_
  rw [← fresh.view h values p, Option.isSome_map]

/-! ## Two sheets that mostly agree -/

def SameAt (s s' : Sheet) (p : Position) : Prop :=
  s'.formulas[p]? = s.formulas[p]? ∧ (s.formulas[p]? = none → s'.matrix.value p = s.matrix.value p)

theorem SameAt.of_entry {s s' : Sheet} {p : Position} (same : s'.entry p = s.entry p) :
    SameAt s s' p := by
  have cell : s'.matrix.cells[p]? = s.matrix.cells[p]? := congrArg Entry.cell same
  exact ⟨congrArg Entry.formula same, fun _ => by rw [Matrix.value, Matrix.value, cell]⟩

theorem Values.unchanged {s s' : Sheet} {val val' : Position → Option CellValue} (values : s.Values val)
    (values' : s'.Values val') (h : s.Sound) (h' : s'.Sound) (limits : s'.limits = s.limits)
    (touched : Position → Prop) (others : ∀ q, ¬ touched q → SameAt s s' q) (p : Position) :
    ¬ touched p → (∀ q, touched q → ¬ TransGen s'.graph.Edge q p) → val' p = val p := by
  induction p using h'.acyclic.wellFounded.induction with
  | _ p ih =>
      intro untouched unreached
      obtain ⟨same, stored⟩ := others p untouched
      cases formula : s'.formulas[p]? with
      | none =>
          have before : s.formulas[p]? = none := by rw [← same, formula]
          rw [values'.stored p formula, values.stored p before, stored before]
      | some e =>
          obtain ⟨v', value', eq'⟩ := values'.computed p e formula
          obtain ⟨v, value, eq⟩ := values.computed p e (by rw [← same, formula])
          have agree : ∀ q, e.Mentions q →
              (.ofOption (val' q) : Reading CellValue) = .ofOption (val q) := by
            intro q mentions
            rcases h'.mentioned formula mentions with edge | outside
            · rw [ih q edge (fun mem => unreached q mem (.single edge))
                fun a mem path => unreached a mem (.tail path edge)]
            · rw [values'.beyond h' outside, values.beyond h (by rwa [← limits])]
          rw [limits, Expr.eval_congr e agree, value] at value'
          rw [eq', eq, ofOption_injective value']

end Sheet

end Spreadsheet
