import Spreadsheet.Proofs.Sheet.Determined

/-!
# Rebuilding what was there

Reading the texts of a sound sheet anew, with its circular formulas listed, ends with the same
formulas accepted and the same ones circular. The order in which formulas are accepted does not matter
for that: those of the sheet close no cycle together, so none of them is refused on the way, and the
listed ones stay refused because they were blocked.
-/

namespace Spreadsheet.Sheet

structure Within (t s : Sheet) : Prop where
  formulas : ∀ (p : Position) (e : Expr), t.formulas[p]? = some e → s.formulas[p]? = some e
  circular : ∀ (p : Position) (e : Expr), t.circular[p]? = some e → s.circular[p]? = some e

section
variable {s t : Sheet}

theorem Within.edge (within : t.Within s) (h : s.Linked) (ht : t.Linked) (limits : t.limits = s.limits)
    {a b : Position} (edge : t.graph.Edge a b) : s.graph.Edge a b := by
  obtain ⟨e, formula, mem⟩ := ht.edge_iff.1 edge
  rw [limits] at mem
  exact h.edge_iff.2 ⟨e, within.formulas b e formula, mem⟩

theorem Linked.accepted_open (h : s.Linked) {p : Position} {e : Expr}
    (formula : s.formulas[p]? = some e) : s.closesCycle p e = false := by
  have toP : ∀ q ∈ e.precedents s.limits, s.graph.Edge q p :=
    fun q mem => h.edge_iff.2 ⟨e, formula, mem⟩
  cases closes : s.closesCycle p e with
  | false => rfl
  | true =>
      rcases h.mirrored.wouldCreateCycle_iff.1 closes with self | ⟨q, mem, path⟩
      · exact absurd (.single (toP p self)) (h.acyclic p)
      · exact absurd (.tail path (toP q mem)) (h.acyclic p)

theorem Within.open_of_accepted (within : t.Within s) (h : s.Linked) (ht : t.Linked)
    (limits : t.limits = s.limits) {p : Position} {e : Expr} (formula : s.formulas[p]? = some e) :
    t.closesCycle p e = false := by
  cases closes : t.closesCycle p e with
  | false => rfl
  | true =>
      have closed := closesCycle_mono ht h limits.symm (fun a b => within.edge h ht limits) closes
      rw [h.accepted_open formula] at closed
      cases closed

theorem formulaOf_of_parse {raw : String} {e : Expr} (formula : isFormulaText raw = true)
    (parsed : parseFormula raw = .ok e) : formulaOf? raw = some e := by
  rw [formulaOf?, if_pos formula, parsed]
  rfl

theorem Wired.formula_of_parse (h : s.Wired) {p : Position} {e : Expr}
    (formula : isFormulaText (s.matrix.raw p) = true)
    (parsed : parseFormula (s.matrix.raw p) = .ok e) (notCircular : s.isCircular p = false) :
    s.formulas[p]? = some e := by
  rw [h.formulas_at, notCircular, formulaOf_of_parse formula parsed]
  rfl

theorem Within.attach (within : t.Within s) (h : s.Wired) (ht : t.Linked)
    (texts : t.matrix.reread = s.matrix.reread) {p : Position}
    (formula : isFormulaText (s.matrix.raw p) = true) : (t.attach (s.isCircular p) p).Within s := by
  have limits : t.limits = s.limits := Matrix.limits_of_reread texts
  have outcome := attach_cases t (s.isCircular p) p
  rw [Matrix.raw_of_reread texts] at outcome
  rcases outcome with ⟨fault, _, eq⟩ | ⟨e, parsed, refused, eq⟩ | ⟨e, parsed, ⟨notListed, _⟩, eq⟩
  · rw [eq]
    exact ⟨within.formulas, within.circular⟩
  · have listed : s.isCircular p = true := by
      cases forced : s.isCircular p with
      | true => rfl
      | false =>
          have open_ := within.open_of_accepted h.toLinked ht limits (h.formula_of_parse formula parsed forced)
          rw [forced, open_] at refused
          simp at refused
    rw [eq]
    refine ⟨within.formulas, fun q e' found => ?_⟩
    rcases PositionMap.eq_or_of_insert_at found with ⟨rfl, rfl⟩ | before
    · rw [h.circular_at, if_pos listed, formulaOf_of_parse formula parsed]
    · exact within.circular q e' before
  · rw [eq]
    refine ⟨fun q e' found => ?_, within.circular⟩
    rcases PositionMap.eq_or_of_insert_at found with ⟨rfl, rfl⟩ | before
    · exact h.formula_of_parse formula parsed notListed
    · exact within.formulas q e' before

theorem Within.attachAll (within : t.Within s) (h : s.Wired) (ht : t.Linked) (forced : Bool)
    (ps : List Position) (texts : t.matrix.reread = s.matrix.reread)
    (formulas : ∀ p ∈ ps, isFormulaText (s.matrix.raw p) = true)
    (listed : ∀ p ∈ ps, s.isCircular p = forced) :
    (ps.foldl (Sheet.attach · forced) t).Within s ∧ (ps.foldl (Sheet.attach · forced) t).Linked := by
  induction ps generalizing t with
  | nil => exact ⟨within, ht⟩
  | cons p ps ih =>
      rw [List.forall_mem_cons] at formulas listed
      have first := within.attach h ht texts formulas.1
      rw [listed.1] at first
      exact ih first (ht.attach forced p) ((reread_attach t forced p).trans texts) formulas.2 listed.2

theorem contains_circularCells {p : Position} :
    (Std.ExtTreeSet.ofList s.circularCells : PositionSet).contains p = s.isCircular p := by
  rw [Bool.eq_iff_iff, Std.ExtTreeSet.contains_iff_mem, PositionSet.mem_ofList_iff]
  exact Std.ExtTreeMap.mem_keys

theorem reread_rewire (s : Sheet) (circular : List Position) :
    (s.rewire circular).matrix.reread = s.matrix.reread := by
  unfold rewire
  dsimp only
  rw [reread_attachAll, reread_attachAll]

theorem within_of_empty (m : Matrix) (s : Sheet) : ({ matrix := m } : Sheet).Within s where
  formulas _ _ found := absurd found PositionMap.not_empty_at
  circular _ _ found := absurd found PositionMap.not_empty_at

theorem within_rewire (h : s.Wired) (texts : t.matrix.reread = s.matrix.reread) :
    (t.rewire s.circularCells).Within s := by
  unfold rewire
  dsimp only
  have formula : ∀ p ∈ t.matrix.formulaCells, isFormulaText (s.matrix.raw p) = true := by
    intro p mem
    rw [← Matrix.raw_of_reread texts]
    exact Matrix.isFormulaText_of_mem mem
  obtain ⟨within₁, linked₁⟩ := (within_of_empty t.matrix s).attachAll h (linked_of_empty _) false
    (t.matrix.formulaCells.filter fun p =>
      !(Std.ExtTreeSet.ofList s.circularCells : PositionSet).contains p) texts
    (fun p mem => formula p (List.mem_filter.1 mem).1) fun p mem => by
      have notListed := (List.mem_filter.1 mem).2
      rwa [contains_circularCells, Bool.not_eq_true'] at notListed
  refine (within₁.attachAll h linked₁ true _ ((reread_attachAll _ _ _).trans texts)
    (fun p mem => formula p (List.mem_filter.1 mem).1) fun p mem => ?_).1
  rw [← contains_circularCells]
  exact (List.mem_filter.1 mem).2

theorem Blocked.retryAll (h : s.Blocked) (ps healed : List Position) :
    ps.foldl retryCell (s, healed) = (s, healed) := by
  induction ps with
  | nil => rfl
  | cons p ps ih =>
      rcases retry_cases s healed p with ⟨stays, _⟩ | ⟨e, circular, open_, _⟩
      · rw [List.foldl_cons, stays, ih]
      · rw [h p e circular] at open_
        cases open_

theorem rewire_eq (h : s.Wired) (texts : t.matrix.reread = s.matrix.reread)
    (literals : t.matrix.LiteralsRead) :
    (t.rewire s.circularCells).formulas = s.formulas ∧
      (t.rewire s.circularCells).circular = s.circular := by
  obtain ⟨wired, _⟩ := rewire_spec literals s.circularCells
  have within := within_rewire h texts
  have raws := Matrix.raw_of_reread ((reread_rewire t s.circularCells).trans texts)
  refine h.formulas_eq wired raws fun p => ?_
  rw [isCircular_eq, isCircular_eq]
  cases circular : s.circular[p]? with
  | none =>
      cases found : (t.rewire s.circularCells).circular[p]? with
      | none => rfl
      | some e =>
          rw [within.circular p e found] at circular
          cases circular
  | some e =>
      cases found : (t.rewire s.circularCells).circular[p]? with
      | some e' => rfl
      | none =>
          -- The formula would be accepted there, and then it would be in the sheet too.
          have accepted : (t.rewire s.circularCells).formulas[p]? = some e := by
            rw [wired.formulas_at, isCircular_eq, found, raws, h.spelled_of_circular circular]
            rfl
          have twice := within.formulas p e accepted
          rw [h.not_accepted circular] at twice
          cases twice

theorem Sound.rebuild_eq (h : s.Sound) (texts : t.matrix.reread = s.matrix.reread)
    (literals : t.matrix.LiteralsRead) :
    (t.rebuild s.circularCells).formulas = s.formulas ∧
      (t.rebuild s.circularCells).circular = s.circular := by
  obtain ⟨formulas, circular⟩ := rewire_eq h.toWired texts literals
  obtain ⟨wired, _⟩ := rewire_spec literals s.circularCells
  have limits : (t.rewire s.circularCells).limits = s.limits :=
    Matrix.limits_of_reread ((reread_rewire t s.circularCells).trans texts)
  have edges : ∀ a b, s.graph.Edge a b → (t.rewire s.circularCells).graph.Edge a b := by
    intro a b edge
    rw [wired.edge_iff, formulas, limits]
    exact h.edge_iff.1 edge
  have blocked : (t.rewire s.circularCells).Blocked := by
    intro p e found
    rw [circular] at found
    exact closesCycle_mono h.toLinked wired.toLinked limits edges (h.blocked p e found)
  rw [Sheet.rebuild_eq, retryCircular, blocked.retryAll]
  exact ⟨formulas, circular⟩

end

end Spreadsheet.Sheet
