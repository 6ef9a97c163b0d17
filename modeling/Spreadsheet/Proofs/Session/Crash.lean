import Spreadsheet.Proofs.Session.Regularity

namespace Spreadsheet

namespace Expr

def sumTwice (s : String) : Expr := .call "SUM" [.text s, .text s]

/-- The formula `=VLOOKUP("k","k",SUM(A1,-A1))`. -/
def nanLookup : Expr :=
  .call "VLOOKUP" [.text "k", .text "k",
    .call "SUM" [.cell { row := 0, column := 0 }, .negate (.cell { row := 0, column := 0 })]]

variable {limits : Limits} {read : Position → Reading CellValue}

theorem sumTwice_eval {s : String} {x : Float} (spelled : readNumber s = some x) (limits : Limits)
    (read : Position → Reading CellValue) :
    (sumTwice s).eval limits read = .ok (.number (Aggregate.total [x, x])) := by
  have number : (FormulaValue.text s).toNumber = .ok x := by
    show CellValue.toNumber (.text s) = _
    rw [CellValue.toNumber, spelled]
  have argument : Aggregate.argNumbers (.text s) = .ok [x] := by
    show (FormulaValue.text s).toNumber.map _ = _
    rw [number]
    rfl
  have numbers : Aggregate.numbers [.text s, .text s] = .ok [x, x] :=
    map_eq_ok.2 ⟨_, mapM_eq_ok.2 (.cons argument (.cons argument .nil)), rfl⟩
  have allowed : Builtin.sum.arity.Allows 2 := by decide
  apply Expr.eval_call_eq_ok.2
  refine .inr ⟨.sum, [.text s, .text s], Builtin.ofName_name .sum, allowed, ?_, ?_⟩
  · exact .cons (by rw [Expr.eval]) (.cons (by rw [Expr.eval]) .nil)
  · show some (FormulaValue.numberAnswer ((Aggregate.numbers _).map Aggregate.total)) = _
    rw [numbers]
    rfl

/-- The difference of two infinities is not a number, and the place it counts to is in front of the
first column. -/
theorem nanLookup_eval (infinite : read ⟨0, 0⟩ = .ok (.number (Aggregate.total [1e308, 1e308]))) :
    nanLookup.eval limits read = .error .crash := by
  have sum : (Expr.call "SUM"
      [.cell { row := 0, column := 0 }, .negate (.cell { row := 0, column := 0 })]).eval limits read = .ok (.number (Aggregate.total
        [Aggregate.total [1e308, 1e308], -Aggregate.total [1e308, 1e308]])) := by
    have cell : (Expr.cell { row := 0, column := 0 }).eval limits read =
        .ok (.number (Aggregate.total [1e308, 1e308])) := by
      rw [eval, show CellRef.toPosition { row := 0, column := 0 } = ⟨0, 0⟩ from rfl, infinite]
      rfl
    have args := evalArgs_eq_ok.2 (.cons cell (.cons (eval_negate_eq_ok.2 ⟨_, cell, rfl⟩) .nil))
    exact eval_call_of_args (Builtin.ofName_name .sum) (by decide) args
  have args : evalArgs limits read [.text "k", .text "k", _] = .ok [.text "k", .text "k", _] :=
    evalArgs_eq_ok.2 (.cons (by rw [eval]) (.cons (by rw [eval]) (.cons sum .nil)))
  have dies : Builtin.vlookup.call [.text "k", .text "k", .number (Aggregate.total
      [Aggregate.total [1e308, 1e308], -Aggregate.total [1e308, 1e308]])] = none :=
    Option.isNone_iff_eq_none.1 (by decide +kernel)
  exact (eval_call_of_args (Builtin.ofName_name .vlookup) (by decide) args).trans
    (congrArg Attempt.ofOption dies)

end Expr

namespace Sheet

structure NaNIndex (s : Sheet) : Prop where
  total : s.formulas[(⟨0, 0⟩ : Position)]? = some (.sumTwice "1E308")
  lookup : s.formulas[(⟨0, 1⟩ : Position)]? = some .nanLookup

variable {s : Sheet} {val : Position → Option CellValue}

theorem NaNIndex.total_shown (h : s.NaNIndex) (values : s.Values val) :
    val ⟨0, 0⟩ = some (.number (Aggregate.total [1e308, 1e308])) := by
  obtain ⟨v, value, shown⟩ := values.computed _ _ h.total
  rw [Expr.sumTwice_eval (show readNumber "1E308" = some 1e308 by decide +kernel)] at value
  rw [shown, ← ofOption_injective (x := some _) value]
  rfl

theorem NaNIndex.lookup_hidden (h : s.NaNIndex) (values : s.Values val) : val ⟨0, 1⟩ = none := by
  obtain ⟨v, value, shown⟩ := values.computed _ _ h.lookup
  rw [Expr.nanLookup_eval (congrArg Attempt.ofOption (h.total_shown values))] at value
  rw [shown, ← ofOption_injective (x := none) value]
  rfl

theorem NaNIndex.hides (h : s.NaNIndex) (truthful : s.Truthful) : s.view ⟨0, 1⟩ = none ∧ ¬ s.Shows := by
  obtain ⟨val, values, fresh⟩ := truthful.fresh
  have hidden := fresh.view truthful.toSound values ⟨0, 1⟩
  rw [h.lookup_hidden values, Option.map_eq_none_iff] at hidden
  refine ⟨hidden, fun shows => ?_⟩
  have shown := shows ⟨0, 1⟩
  rw [hidden] at shown
  cases shown

end Sheet

namespace Session

theorem after_setCell {s : Session} {name raw : String} {p : Position} {sheet written sheet' : Sheet}
    {roots : List Position} {cancelled : Bool} {stats : RecalcStats} {view : CellView}
    (found : s.sheet name = .ok sheet) (wrote : sheet.write [(p, raw)] = .ok (written, roots))
    (ran : written.recalcFrom roots cancelled = some (sheet', stats)) (shown : sheet'.view p = some view) :
    ∃ s', s.after (.setCell name p raw cancelled) = some s' ∧ s'.sheet name = .ok sheet' := by
  have named : sheet'.name = name :=
    ((Sheet.frame_write wrote).trans (Sheet.frame_recalcCells ran)).2.trans (sheet_ok found).2
  let s' : Session := { s.replace name sheet' with
    history := s.history.push (sheet.recordCells (describeEdit p raw) [p]) }
  have found' : s'.sheet name = .ok sheet' := sheet_replace_same found named
  have stored : s.writeCells name (describeEdit p raw) [(p, raw)] cancelled = .ok (s', stats) :=
    bind_eq_ok.2 ⟨sheet, ofExcept_eq_ok.2 found, bind_eq_ok.2 ⟨(written, roots), ofExcept_eq_ok.2 wrote,
      bind_eq_ok.2 ⟨(sheet', stats), ofOption_eq_ok.2 ran, rfl⟩⟩⟩
  have performed : s.perform (.setCell name p raw cancelled) = .ok (s', .cell view stats) :=
    map_eq_ok.2 ⟨(s', view, stats), bind_eq_ok.2 ⟨(s', stats), stored,
      bind_eq_ok.2 ⟨sheet', ofExcept_eq_ok.2 found', bind_eq_ok.2 ⟨view, ofOption_eq_ok.2 shown, rfl⟩⟩⟩, rfl⟩
  refine ⟨s', ?_, found'⟩
  rw [Session.after, performed]

def lookedUp : Session := reached {}
  [.addMatrix "S", .setCells "S" [(⟨0, 0⟩, "x"), (⟨0, 1⟩, "=VLOOKUP(\"k\",\"k\",SUM(A1,-A1))")]]

def totalled (cancelled : Bool) : Operation := .setCell "S" ⟨0, 0⟩ "=SUM(\"1E308\",\"1E308\")" cancelled

def nanIndex : Session := lookedUp.next (totalled true)

theorem reachable_lookedUp : Reachable {} lookedUp := reachable_reached {} _

theorem reachable_nanIndex : Reachable {} nanIndex := reachable_lookedUp.next _

theorem lookedUp_write : ∃ sheet written, lookedUp.sheet "S" = .ok sheet ∧
    sheet.write [(⟨0, 0⟩, "=SUM(\"1E308\",\"1E308\")")] = .ok (written, [⟨0, 0⟩]) ∧
    written.NaNIndex ∧ written.circularCells = [] ∧ ⟨0, 1⟩ ∈ written.staleFrom [⟨0, 0⟩] := by
  have wrote : (lookedUp.sheet "S").bind (fun sheet =>
      (sheet.write [(⟨0, 0⟩, "=SUM(\"1E308\",\"1E308\")")]).map fun written =>
        (written.1.formulas[(⟨0, 0⟩ : Position)]?, written.1.formulas[(⟨0, 1⟩ : Position)]?,
          written.1.circularCells, written.2, (written.1.staleFrom [⟨0, 0⟩]).contains ⟨0, 1⟩)) =
      .ok (some (.sumTwice "1E308"), some .nanLookup, [], [⟨0, 0⟩], true) := by
    cbv
  obtain ⟨sheet, found, wrote⟩ := bind_eq_ok.1 wrote
  obtain ⟨⟨written, roots⟩, wrote, facts⟩ := map_eq_ok.1 wrote
  simp only [Prod.mk.injEq] at facts
  obtain ⟨total, lookup, circular, rfl, due⟩ := facts
  exact ⟨sheet, written, found, wrote, ⟨total, lookup⟩, circular, Std.ExtTreeSet.contains_iff_mem.1 due⟩

theorem nanIndex_written : lookedUp.after (totalled true) = some nanIndex ∧
    ∃ sheet, nanIndex.sheet "S" = .ok sheet ∧ sheet.NaNIndex ∧ sheet.circularCells = [] := by
  obtain ⟨sheet, written, found, wrote, index, circular, _⟩ := lookedUp_write
  obtain ⟨stats, ran⟩ := Sheet.recalcCells_true written (written.staleFrom [⟨0, 0⟩])
  have truthful := (reachable_lookedUp.truthful sheet (sheet_ok found).1).write wrote ran
  obtain ⟨val, values, fresh⟩ := truthful.fresh
  have index' : (written.mapCells (Sheet.stale (· ∈ written.staleFrom [⟨0, 0⟩]))).NaNIndex :=
    ⟨index.total, index.lookup⟩
  have shown := fresh.view truthful.toSound values ⟨0, 0⟩
  rw [index'.total_shown values] at shown
  obtain ⟨view, viewed, _⟩ := Option.map_eq_some_iff.1 shown
  obtain ⟨s', done, found'⟩ := after_setCell found wrote ran viewed
  have same : nanIndex = s' := by
    show (lookedUp.after (totalled true)).getD lookedUp = s'
    rw [show lookedUp.after (totalled true) = some s' from done]
    rfl
  rw [same]
  exact ⟨done, _, found', index', circular⟩

theorem lookedUp_totalled_crash : lookedUp.perform (totalled false) = .error .crash := by
  obtain ⟨sheet, written, found, wrote, index, _, due⟩ := lookedUp_write
  have truthful := reachable_lookedUp.truthful sheet (sheet_ok found).1
  obtain ⟨sound, accepted, val, values, outside⟩ := truthful.fresh_of_write wrote
  have dies : written.recalcFrom [⟨0, 0⟩] false = none := by
    rw [← Option.not_isSome_iff_eq_none]
    intro ended
    have shown := (Sheet.recalcCells_isSome_iff sound values accepted outside).1 ended ⟨0, 1⟩ due
    rw [index.lookup_hidden values] at shown
    cases shown
  have refused : lookedUp.writeCells "S" (describeEdit ⟨0, 0⟩ "=SUM(\"1E308\",\"1E308\")")
      [(⟨0, 0⟩, "=SUM(\"1E308\",\"1E308\")")] false = .error .crash := by
    unfold writeCells
    rw [found, ofExcept_ok_bind, wrote, ofExcept_ok_bind]
    dsimp only
    rw [dies]
    rfl
  exact map_eq_error.2 (bind_eq_error.2 (.inl refused))

theorem nanIndex_hides : ∃ sheet, nanIndex.sheet "S" = .ok sheet ∧ sheet.Truthful ∧
    sheet.circularCells = [] ∧ sheet.view ⟨0, 1⟩ = none ∧ ¬ sheet.Shows := by
  obtain ⟨sheet, found, index, circular⟩ := nanIndex_written.2
  have truthful := reachable_nanIndex.truthful sheet (sheet_ok found).1
  obtain ⟨hidden, hides⟩ := index.hides truthful
  exact ⟨sheet, found, truthful, circular, hidden, hides⟩

theorem nanIndex_not_shows : ¬ nanIndex.Shows := by
  obtain ⟨sheet, found, _, _, _, hides⟩ := nanIndex_hides
  exact fun shows => hides (shows sheet (sheet_ok found).1)

theorem lookedUp_shows : lookedUp.Shows := (Reachable.shows_iff reachable_lookedUp).2 (by cbv)

theorem lookedUp_totalled : ∃ reply, lookedUp.perform (totalled true) = .ok (nanIndex, reply) := by
  rcases after_eq_some nanIndex_written.1 with performed | same
  · exact performed
  · exact absurd (same ▸ lookedUp_shows) nanIndex_not_shows

end Session

end Spreadsheet
