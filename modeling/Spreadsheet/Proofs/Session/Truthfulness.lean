import Spreadsheet.Proofs.Eval.Tables
import Spreadsheet.Proofs.Session.Invariant
import Spreadsheet.Proofs.Sheet.Recalculation

namespace Spreadsheet

theorem Sheet.truthful_kept (limits : Limits) : Sheet.Kept limits Sheet.Truthful where
  untouched h := h
  created ok := by
    obtain ⟨sound, _, _, pending⟩ := create_ok ok
    exact sound.truthful pending
  loaded ok ran := (ofSnapshot_ok ok).1.recalcAll ran
  written h ok ran := h.write ok ran
  edited h ok ran := (editLine_ok h.toSound ok).1.recalcAll ran
  restored h ok ran := (restore_ok h.toSound ok).1.recalcAll ran
  recalculated h ran := h.toSound.recalcAll ran

theorem Sheet.Wired.meetsNaN_of_view {s : Sheet} (h : s.Wired) {p : Position} (hidden : s.view p = none) :
    ∃ e : Expr, s.formulas[p]? = some e ∧ e.MeetsNaN s.resolver [p] := by
  have wellFormed : ∀ (q : Position) (e : Expr), s.formulas[q]? = some e → e.WellFormed := by
    intro q e formula
    obtain ⟨c, _, parsed⟩ := h.parsed formula
    exact wellFormed_of_parse parsed
  unfold Sheet.view at hidden
  split at hidden
  · cases hidden
  · split at hidden
    · rename_i e formula _
      have died : evaluateCell s.resolver p e = none := Option.map_eq_none_iff.1 hidden
      have pending : ∀ q g, s.resolver.lookup q = .pending g → g.WellFormed :=
        fun q g found => wellFormed q g (mem_formulas_of_lookup found)
      obtain ⟨v, value, _⟩ | ⟨_, meets⟩ := (wellFormed p e formula).evaluate_total pending [p]
      · rw [evaluateCell, value] at died
        cases died
      · exact ⟨e, formula, meets⟩
    · cases hidden

namespace Session

theorem Reachable.truthful {options : Options} {s : Session} (h : Reachable options s) :
    ∀ sheet ∈ s.sheets, sheet.Truthful := (h.holds (Sheet.truthful_kept options.limits)).2

theorem sheet_replace (s : Session) {name : String} {sheet : Sheet} (named : sheet.name = name)
    (name' : String) : (s.replace name sheet).sheet name' =
      (s.sheet name').map fun old => if old.name == name then sheet else old := by
  -- The new sheet bears the name of the old one, so a search by name stops at the same place.
  have sameNames : ((fun x : Sheet => x.name == name') ∘ fun old : Sheet =>
      if old.name == name then sheet else old) = fun x => x.name == name' := by
    funext old
    dsimp only [Function.comp]
    split
    · rename_i same
      rw [named, eq_of_beq same]
    · rfl
  unfold Session.sheet replace
  dsimp only
  rw [List.find?_map, sameNames]
  cases s.sheets.find? fun x => x.name == name' with
  | none => rfl
  | some old => rfl

theorem sheet_replace_same {s : Session} {name : String} {sheet sheet' : Sheet}
    (found : s.sheet name = .ok sheet) (named : sheet'.name = name) :
    (s.replace name sheet').sheet name = .ok sheet' := by
  rw [sheet_replace s named, found]
  simp only [Except.map, (sheet_ok found).2, beq_self_eq_true, if_true]

theorem found_writeCells {s s' : Session} {name description : String} {edits : List (Position × String)}
    {cancelled : Bool} {stats : RecalcStats}
    (ok : s.writeCells name description edits cancelled = .ok (s', stats)) :
    ∃ sheet, s'.sheet name = .ok sheet := by
  obtain ⟨sheet, written, roots, sheet', found, wrote, ran, rfl⟩ := writeCells_ok ok
  have frame := (Sheet.frame_write wrote).trans (Sheet.frame_recalcCells ran)
  exact ⟨sheet', sheet_replace_same found (frame.2.trans (sheet_ok found).2)⟩

theorem sheet_replace_other (s : Session) {name name' : String} {sheet : Sheet}
    (named : sheet.name = name) (other : name' ≠ name) :
    (s.replace name sheet).sheet name' = s.sheet name' := by
  rw [sheet_replace s named]
  cases found : s.sheet name' with
  | error fault => rfl
  | ok old =>
      have different : ¬ (old.name == name) = true := by
        rw [(sheet_ok found).2, beq_iff_eq]
        exact other
      simp only [Except.map, different, Bool.false_eq_true, if_false]

theorem replace_again (s : Session) (name : String) (sheet : Sheet) :
    (s.replace name sheet).replace name sheet = s.replace name sheet := by
  unfold replace
  dsimp only
  rw [List.map_map]
  congr 1
  refine List.map_congr_left fun old _ => ?_
  dsimp only [Function.comp]
  split
  · split <;> rfl
  · rfl

theorem recalculate_eq {s : Session} {name : String} {sheet : Sheet} (found : s.sheet name = .ok sheet)
    (cancelled : Bool) : s.recalculate name cancelled =
      .ofOption ((sheet.recalcAll cancelled).map fun r => (s.replace name r.1, r.2)) := by
  unfold recalculate
  rw [found, ofExcept_ok_bind]
  cases sheet.recalcAll cancelled <;> rfl

theorem cell_congr {α : Type} {s s' : Session} {name name' : String} {sheet sheet' : Sheet}
    (found : s.sheet name = .ok sheet) (found' : s'.sheet name' = .ok sheet')
    (limits : sheet'.limits = sheet.limits) {p : Position} {f : CellView → α}
    (views : (sheet'.view p).map f = (sheet.view p).map f) :
    (s'.cell name' p).map f = (s.cell name p).map f := by
  unfold cell
  rw [found, found']
  show ((do .ofExcept (sheet'.limits.check p); .ofOption (sheet'.view p) : Attempt GridError CellView).map f) =
    (do .ofExcept (sheet.limits.check p); .ofOption (sheet.view p) : Attempt GridError CellView).map f
  rw [limits]
  cases sheet.limits.check p with
  | error fault => rfl
  | ok u =>
      show (Attempt.ofOption (sheet'.view p)).map f = (Attempt.ofOption (sheet.view p)).map f
      rw [map_ofOption, map_ofOption, views]

theorem cell_replace {s : Session} {name : String} {sheet sheet' : Sheet}
    (found : s.sheet name = .ok sheet) (frame : sheet.SameFrame sheet')
    (views : ∀ p, (sheet'.view p).map CellView.value = (sheet.view p).map CellView.value)
    (name' : String) (p : Position) :
    ((s.replace name sheet').cell name' p).map CellView.value =
      (s.cell name' p).map CellView.value := by
  have named : sheet'.name = name := frame.2.trans (sheet_ok found).2
  have replaced := sheet_replace s named name'
  cases found' : s.sheet name' with
  | error fault =>
      rw [found'] at replaced
      unfold cell
      rw [replaced, found']
      rfl
  | ok old =>
      rw [found'] at replaced
      by_cases same : old.name == name
      · have names : name' = name := (sheet_ok found').2.symm.trans (eq_of_beq same)
        rw [names, found] at found'
        cases found'
        simp only [Except.map, same, if_true] at replaced
        rw [names] at replaced ⊢
        exact cell_congr found replaced frame.1 (views p)
      · simp only [Except.map, same, Bool.false_eq_true, if_false] at replaced
        exact cell_congr found' replaced rfl rfl

theorem Reachable.recalculate_shows {options : Options} {s : Session} (h : Reachable options s)
    {name : String} {sheet : Sheet} (found : s.sheet name = .ok sheet) (shows : sheet.Shows) :
    ∃ sheet' stats, sheet.recalcAll false = some (sheet', stats) ∧
      s.recalculate name false = .ok (s.replace name sheet', stats) := by
  have truthful := h.truthful sheet (sheet_ok found).1
  obtain ⟨⟨sheet', stats⟩, ran⟩ := Option.isSome_iff_exists.1 (truthful.recalcAll_isSome_iff.2 shows)
  refine ⟨sheet', stats, ran, ?_⟩
  rw [recalculate_eq found, ran]
  rfl

def mutualReferences : Session := reached {}
  [.addMatrix "S", .setCell "S" ⟨0, 0⟩ "=B1" true, .setCell "S" ⟨0, 1⟩ "=A1" true]

end Session

end Spreadsheet
