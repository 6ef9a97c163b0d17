import Spreadsheet.Proofs.Session.Crash
import Spreadsheet.Proofs.Sheet.FiniteValues

namespace Spreadsheet

namespace Sheet

theorem no_cells_of_create {name : String} {limits : Limits} {s : Sheet} (ok : create name limits = .ok s)
    (p : Position) : s.matrix.cells[p]? = none := by
  obtain ⟨m, created, rfl⟩ := map_eq_ok.1 ok
  obtain ⟨_, _, rfl⟩ := map_eq_ok.1 created
  cases cell : (ofMatrix { name, limits } []).matrix.cells[p]? with
  | none => rfl
  | some c =>
      obtain ⟨c', before, _⟩ := Matrix.cell_of_reread (reread_rebuild { matrix := { name, limits } } []) cell
      cases before

theorem finite_kept (limits : Limits) :
    Sheet.Kept limits (fun s => s.Truthful ∧ s.matrix.Finite)
      (fun s => s.Truthful ∧ (s.TotalsFinite → s.matrix.Finite)) where
  untouched h := ⟨h.1, fun _ => h.2⟩
  created ok := by
    refine ⟨(truthful_kept limits).created ok, fun _ p c cell => ?_⟩
    rw [no_cells_of_create ok] at cell
    cases cell
  loaded ok ran := ⟨(ofSnapshot_ok ok).1.recalcAll ran, (ofSnapshot_ok ok).1.finite_recalcAll ran⟩
  written {s written s' edits roots cancelled stats} h ok ran := by
    obtain ⟨sound, accepted, val, values, outside⟩ := h.1.fresh_of_write ok
    have finite := finite_writeCells h.2 edits
    rw [(write_ok ok).1] at finite
    exact ⟨h.1.write ok ran, finite_recalcCells sound values accepted outside ran finite⟩
  edited h ok ran := ⟨(editLine_ok h.1.toSound ok).1.recalcAll ran,
    (editLine_ok h.1.toSound ok).1.finite_recalcAll ran⟩
  restored h ok ran := ⟨(restore_ok h.1.toSound ok).1.recalcAll ran,
    (restore_ok h.1.toSound ok).1.finite_recalcAll ran⟩
  recalculated h ran := by
    obtain ⟨val, values⟩ := h.1.exists_values
    exact ⟨h.1.toSound.recalcAll ran, finite_recalcCells h.1.toSound values
      (fun _ => mem_acceptedCells.1) fresh_of_all_stale ran h.2⟩

end Sheet

namespace Session

theorem holds_finite {options : Options} {ops : List Operation}
    (totals : ∀ n t, (create options).run (ops.take n) = some t → ∀ sheet ∈ t.sheets, sheet.TotalsFinite)
    (n : Nat) {t : Session} (ran : (create options).run (ops.take n) = some t) :
    t.Holds options fun s => s.Truthful ∧ s.matrix.Finite := by
  -- One operation after another: the sheets are finite before each, and its result has finite totals.
  induction n generalizing t with
  | zero =>
      cases ran
      exact ⟨rfl, fun _ mem => nomatch mem⟩
  | succ n ih =>
      by_cases more : n < ops.length
      · have bounded := totals (n + 1) t ran
        rw [run_take_succ _ more] at ran
        obtain ⟨before, ran, done⟩ := Option.bind_eq_some_iff.1 ran
        obtain ⟨same, sheets⟩ := (ih ran).after (Sheet.finite_kept options.limits) done
        refine ⟨same, fun sheet mem => ?_⟩
        obtain ⟨truthful, finite⟩ := sheets sheet mem
        exact ⟨truthful, finite (bounded sheet mem)⟩
      · rw [List.take_of_length_le (by omega)] at ih ran
        exact ih ran

/-- If the sums and means of every session on the way are finite, then every number that is stored is,
and an operation on numbers that overflows is stored as an error. -/
theorem run_finite {options : Options} {ops : List Operation} {s : Session}
    (ran : (create options).run ops = some s)
    (totals : ∀ n t, (create options).run (ops.take n) = some t → ∀ sheet ∈ t.sheets, sheet.TotalsFinite) :
    ∀ sheet ∈ s.sheets, ∀ (p : Position) (c : Cell), sheet.matrix.cells[p]? = some c →
      (∀ x, c.value = .number x → x.isFinite = true) ∧
      ∀ op left right x y, sheet.formulas[p]? = some (.binary op left right) → c.dirty = false →
        evaluate sheet.resolver [p] left = .ok (.number x) →
        evaluate sheet.resolver [p] right = .ok (.number y) → op.Overflows x y →
          c.value = .error .badNumber := by
  have holds := holds_finite totals ops.length (by rwa [List.take_length])
  intro sheet mem p c cell
  obtain ⟨truthful, finite⟩ := holds.2 sheet mem
  refine ⟨finite p c cell, fun op left right x y formula clean first second overflows => ?_⟩
  have value : evaluate sheet.resolver [p] (.binary op left right) = .ok (.error .badNumber) :=
    Expr.eval_binary_eq_ok.2 ⟨_, _, first, second, BinaryOp.apply_of_overflows overflows⟩
  have stored := truthful.stored cell formula clean
  rw [evaluateCell, value] at stored
  exact (Option.some.inj stored).symm

/-! ## A sum of nothing, and a sum that overflows -/

def sumOfTwo : Expr :=
  .call "SUM" [.range (.between { row := 0, column := 1 } { row := 1, column := 1 })]

theorem sumOfTwo_finite {read : Position → Reading CellValue}
    (blank : ∀ p, p ≠ ⟨0, 0⟩ → read p = .ok .empty) : sumOfTwo.TotalsFinite {} read := by
  have value : sumOfTwo.eval {} read = .ok (.number 0) := by
    have nothing : sumOfTwo.eval {} (fun _ => .ok .empty) = .ok (.number 0) := by cbv
    rw [← nothing]
    apply Expr.eval_congr
    rintro p ⟨r, refers, _, left, _⟩
    apply blank
    rintro rfl
    obtain rfl := List.mem_singleton.1 refers
    exact absurd left (by decide)
  intro function args f x occurs _ _ total
  unfold sumOfTwo at occurs
  cases occurs with
  | here =>
      rw [show sumOfTwo.eval {} read = _ from total] at value
      cases value
      exact isFinite_zero
  | argument mem inner =>
      obtain rfl := List.mem_singleton.1 mem
      cases inner

def summing : List Operation := [.addMatrix "S", .setCell "S" ⟨0, 0⟩ "=SUM(B1:B2)" false]

theorem run_summing : ∃ s sheet, (create {}).run summing = some s ∧ s.sheets = [sheet] ∧ sheet.limits = {} ∧
    sheet.matrix.cells.keys = [⟨0, 0⟩] ∧ sheet.formulas.keys = [⟨0, 0⟩] ∧
    sheet.formulas[(⟨0, 0⟩ : Position)]? = some sumOfTwo ∧
    sheet.matrix.cells[(⟨0, 0⟩ : Position)]?.map Cell.dirty = some false := by
  have written : ((create {}).run summing).map (fun s => s.sheets.map fun sheet => (sheet.limits,
      sheet.matrix.cells.keys, sheet.formulas.keys, sheet.formulas[(⟨0, 0⟩ : Position)]?,
      sheet.matrix.cells[(⟨0, 0⟩ : Position)]?.map Cell.dirty)) =
      some [({}, [⟨0, 0⟩], [⟨0, 0⟩], some sumOfTwo, some false)] := by cbv
  obtain ⟨s, ran, written⟩ := Option.map_eq_some_iff.1 written
  obtain ⟨sheet, only, facts⟩ := List.map_eq_singleton_iff.1 written
  simp only [Prod.mk.injEq] at facts
  exact ⟨s, sheet, ran, only, facts⟩

theorem totals_of_summing (n : Nat) (t : Session) (ran : (create {}).run (summing.take n) = some t) :
    ∀ sheet ∈ t.sheets, sheet.TotalsFinite := by
  intro sheet mem
  apply Sheet.totalsFinite_of_keys
  cases n with
  | zero =>
      cases ran
      cases mem
  | succ n =>
      cases n with
      | zero =>
          have created : ((create {}).run (summing.take 1)).map
              (fun s => s.sheets.map fun sheet => sheet.formulas.keys) = some [[]] := by cbv
          rw [ran] at created
          obtain ⟨only, sheets, noFormulas⟩ := List.map_eq_singleton_iff.1 (Option.some.inj created)
          rw [sheets, List.mem_singleton] at mem
          rw [mem, noFormulas]
          simp
      | succ n =>
          rw [List.take_of_length_le (by simp [summing])] at ran
          obtain ⟨s, only, ran', sheets, limits, cells, formulas, formula, _⟩ := run_summing
          rw [ran] at ran'
          cases ran'
          rw [sheets, List.mem_singleton] at mem
          rw [mem, formulas, limits]
          intro p key e found
          obtain rfl := List.mem_singleton.1 key
          rw [formula] at found
          cases found
          apply sumOfTwo_finite
          intro q other
          have absent : only.matrix.cells[q]? = none := by
            apply Std.ExtTreeMap.getElem?_eq_none
            rw [← Std.ExtTreeMap.mem_keys, cells, List.mem_singleton]
            exact other
          unfold Sheet.view
          rw [absent]
          rfl

theorem summing_finite : ∃ s, (create {}).run summing = some s ∧ ∃ sheet ∈ s.sheets, ∃ c : Cell,
    sheet.matrix.cells[(⟨0, 0⟩ : Position)]? = some c ∧ c.dirty = false ∧
      ∀ x, c.value = .number x → x.isFinite = true := by
  obtain ⟨s, sheet, ran, only, _, _, _, _, clean⟩ := run_summing
  have mem : sheet ∈ s.sheets := by simp [only]
  obtain ⟨c, cell, fresh⟩ := Option.map_eq_some_iff.1 clean
  exact ⟨s, ran, sheet, mem, c, cell, fresh, (run_finite ran totals_of_summing sheet mem ⟨0, 0⟩ c cell).1⟩

theorem infinity_stored : ∃ s, (create {}).run [.addMatrix "M",
      .setCell "M" ⟨0, 0⟩ "=SUM(\"1E308\",\"1E308\")" false] = some s ∧
    ∃ sheet ∈ s.sheets, ∃ (c : Cell) (x : Float), sheet.matrix.cells[(⟨0, 0⟩ : Position)]? = some c ∧
      c.value = .number x ∧ x.isInf = true := by
  have wrote : ((create {}).run [.addMatrix "M"]).map (fun s => (s.sheet "M").bind fun sheet =>
      (sheet.write [(⟨0, 0⟩, "=SUM(\"1E308\",\"1E308\")")]).map fun written =>
        (written.1.formulas[(⟨0, 0⟩ : Position)]?, (written.1.staleFrom written.2).toList)) =
      some (.ok (some (.sumTwice "1E308"), [⟨0, 0⟩])) := by
    cbv
  obtain ⟨s, added, wrote⟩ := Option.map_eq_some_iff.1 wrote
  obtain ⟨sheet, found, wrote⟩ := bind_eq_ok.1 wrote
  obtain ⟨⟨written, roots⟩, wrote, facts⟩ := map_eq_ok.1 wrote
  obtain ⟨formula, due⟩ := Prod.mk.inj facts
  dsimp only at formula due
  have truthful := (Reachable.create.run added).truthful sheet (sheet_ok found).1
  obtain ⟨sound, accepted, val, values, outside⟩ := truthful.fresh_of_write wrote
  have mem : ∀ p, p ∈ written.staleFrom roots ↔ p = ⟨0, 0⟩ := by
    intro p
    rw [← Std.ExtTreeSet.mem_toList, due, List.mem_singleton]
  have large : ∃ x, readNumber "1E308" = some x ∧ (Aggregate.total [x, x]).isInf = true :=
    ⟨1e308, by decide +kernel, by decide +kernel⟩
  obtain ⟨x, spelled, infinite⟩ := large
  have shown : val ⟨0, 0⟩ = some (.number (Aggregate.total [x, x])) := by
    obtain ⟨v, value, same⟩ := values.computed _ _ formula
    rw [Expr.sumTwice_eval spelled] at value
    rw [same, ← ofOption_injective (x := some _) value]
    rfl
  -- `A1` is all there is to evaluate, so the run goes through.
  obtain ⟨⟨sheet', stats⟩, ran⟩ := Option.isSome_iff_exists.1
    ((Sheet.recalcCells_isSome_iff sound values accepted outside).2 fun p due => by
      rw [(mem p).1 due, shown]
      rfl)
  obtain ⟨sound', values', fresh'⟩ := Sheet.recalcCells_spec sound values accepted outside ran
  have viewed := fresh'.view sound' values' ⟨0, 0⟩
  rw [shown] at viewed
  obtain ⟨view, viewed, _⟩ := Option.map_eq_some_iff.1 viewed
  obtain ⟨s', done, found'⟩ := after_setCell found wrote ran viewed
  obtain ⟨c, cell, _⟩ := sound.toWired.parsed formula
  refine ⟨s', ?_, sheet', (sheet_ok found').1,
    { c with value := .number (Aggregate.total [x, x]), dirty := false }, _, ?_, rfl, infinite⟩
  · rw [← List.singleton_append, run_concat, added]
    exact done
  · rw [Sheet.recalcCells_eq sound values accepted outside ran, Sheet.cells_mapCells, cell]
    show some (Sheet.settle (· ∈ written.staleFrom roots) val ⟨0, 0⟩ c) = _
    rw [Sheet.settle, if_pos ((mem _).2 rfl), shown]
    rfl

end Session

end Spreadsheet
