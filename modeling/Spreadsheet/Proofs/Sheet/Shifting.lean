import Spreadsheet.Proofs.Cell.Lines
import Spreadsheet.Proofs.Eval.Shifting
import Spreadsheet.Proofs.Formula.RoundTrip
import Spreadsheet.Proofs.Sheet.Rebuilding
import Spreadsheet.Proofs.Sheet.Standing

/-!
# Line edits close no cycle

Within what notation can name, a line edit takes cells and references to the same places. Whatever a
formula refers to afterwards, it referred to before the edit, so a path between accepted formulas comes
from a path before the edit and a cycle would come from a cycle. None of the formulas accepted before
is refused, and the circular ones are the old ones at their new places.
-/

namespace Spreadsheet
open Relation (TransGen)

/-! ## Cells -/

namespace LineEdit

theorem moveIndex_insert {axis : Axis} {k i : Nat} (room : k ≤ i → i + 1 < axis.bound) :
    (insert axis k).moveIndex i = some (openedAt k i) := by
  rw [moveIndex_insert_iff, openedAt]
  split <;> omega

theorem moveIndex_delete {axis : Axis} {k i : Nat} (named : i < axis.bound) :
    (delete axis k).moveIndex i = closedAt k i := by
  refine Option.ext fun j => ?_
  rw [moveIndex_delete_iff, closedAt_eq_some_iff]
  omega

end LineEdit

theorem Matrix.editLine_cells {m m' : Matrix} {edit : LineEdit}
    (inside : ∀ (p : Position) (c : Cell), m.cells[p]? = some c → m.limits.Contains p)
    (named : ∀ axis : Axis, m.limits.along axis ≤ axis.bound) (ok : m.editLine edit = .ok m') :
    m'.cells = m.cells.relocate edit.movePosition := by
  cases edit with
  | insert axis k =>
      obtain ⟨⟨cells, _⟩, room⟩ := insertLine_ok ok
      rw [cells]
      refine CellStore.relocate_congr fun p c stored => ?_
      have open_ := LineEdit.moveIndex_insert fun behind =>
        Nat.lt_of_lt_of_le (room p c stored behind) (named axis)
      exact (congrArg (Option.map (p.withAlong axis)) open_).symm
  | delete axis k =>
      obtain ⟨cells, _⟩ := deleteLine_ok ok
      rw [cells]
      refine CellStore.relocate_congr fun p c stored => ?_
      have below := contains_iff_along.1 (inside p c stored) axis
      have closed := LineEdit.moveIndex_delete (k := k) (Nat.lt_of_lt_of_le below (named axis))
      exact (congrArg (Option.map (p.withAlong axis)) closed).symm

namespace Sheet

def shifted (s : Sheet) (edit : LineEdit) (m : Matrix) : Sheet :=
  { s with matrix := { m with cells := m.cells.map fun _ c => { c with raw := moveText edit c.raw } } }

theorem editLine_eq_ok {s s' : Sheet} {edit : LineEdit} : s.editLine edit = .ok s' ↔
    ∃ m, s.matrix.editLine edit = .ok m ∧
      s' = (s.shifted edit m).rebuild (s.circularCells.filterMap edit.movePosition) := by
  unfold editLine
  rw [map_eq_ok]
  exact exists_congr fun m => and_congr_right fun _ => eq_comm

section
variable {s s' t : Sheet} {edit : LineEdit} {m : Matrix}

theorem Sound.shifted_at (h : s.Sound) (named : ∀ axis : Axis, s.limits.along axis ≤ axis.bound)
    (ok : s.matrix.editLine edit = .ok m) {p' : Position} {c' : Cell} :
    (s.shifted edit m).matrix.cells[p']? = some c' ↔ ∃ (p : Position) (c : Cell),
      s.matrix.cells[p]? = some c ∧ edit.movePosition p = some p' ∧
        c' = { c with raw := moveText edit c.raw } := by
  unfold shifted
  dsimp only
  rw [Std.ExtTreeMap.getElem?_map, Matrix.editLine_cells h.inside named ok, Option.map_eq_some_iff]
  simp only [CellStore.relocate_at_iff fun _ _ _ => LineEdit.movePosition_injective]
  constructor
  · rintro ⟨c, ⟨p, stored, moved⟩, rfl⟩
    exact ⟨p, c, stored, moved, rfl⟩
  · rintro ⟨p, c, stored, moved, rfl⟩
    exact ⟨c, ⟨p, stored, moved⟩, rfl⟩

/-! ## Texts -/

theorem isFormulaText_moveText (edit : LineEdit) (raw : String) :
    isFormulaText (moveText edit raw) = isFormulaText raw := by
  cases formula : isFormulaText raw with
  | true => exact Matrix.moveText_formula edit formula
  | false =>
      unfold moveText
      rw [formula, if_neg (by decide), formula]

theorem mentions_of_moveText {raw : String} (formula : isFormulaText raw = true) {e' : Expr}
    (parsed : parseFormula (moveText edit raw) = .ok e') :
    ∃ e, parseFormula raw = .ok e ∧ ∀ p p', edit.movePosition p = some p' → e'.Mentions p' →
      e.Mentions p := by
  unfold moveText at parsed
  rw [if_pos formula] at parsed
  cases before : parseFormula raw with
  | error fault =>
      rw [before] at parsed
      dsimp only at parsed
      rw [before] at parsed
      cases parsed
  | ok e =>
      rw [before] at parsed
      dsimp only at parsed
      refine ⟨e, rfl, fun p p' moved mentions => Expr.mentions_of_move moved ?_⟩
      have kept := Expr.moved?_getD edit e
      cases rewritten : e.moved? edit with
      | none =>
          rw [rewritten] at parsed kept
          rw [← kept]
          rw [Option.map_none, Option.getD_none, before] at parsed
          cases parsed
          exact mentions
      | some e₁ =>
          rw [rewritten] at parsed kept
          rw [Option.map_some, Option.getD_some] at parsed
          rw [Option.getD_some] at kept
          rw [kept] at parsed
          have wellFormed := (wellFormed_of_parse before).move edit
          unfold Expr.Mentions at mentions ⊢
          rwa [Expr.references_of_parse_writeFormula wellFormed parsed] at mentions

/-! ## Rebuilding -/

/-- Every accepted formula of `t` is one of `s` that moved and mentions no more than it did, and every
circular one is circular in `s`. -/
structure ImageOf (t : Sheet) (edit : LineEdit) (s : Sheet) : Prop where
  formulas : ∀ (p' : Position) (e' : Expr), t.formulas[p']? = some e' →
    ∃ p e, edit.movePosition p = some p' ∧ s.formulas[p]? = some e ∧
      ∀ q q', edit.movePosition q = some q' → e'.Mentions q' → e.Mentions q
  circular : ∀ (p' : Position) (e' : Expr), t.circular[p']? = some e' →
    ∃ p, edit.movePosition p = some p' ∧ s.isCircular p = true

theorem Sound.accepted_inside (h : s.Sound) {p : Position} {e : Expr}
    (formula : s.formulas[p]? = some e) : s.limits.Contains p := by
  obtain ⟨c, cell, _⟩ := h.toWired.stands_accepted formula
  exact h.inside p c cell

theorem ImageOf.edge (image : t.ImageOf edit s) (h : s.Sound) (ht : t.Linked) {a a' b' : Position}
    (moved : edit.movePosition a = some a') (inside : s.limits.Contains a)
    (edge : t.graph.Edge a' b') : ∃ b, edit.movePosition b = some b' ∧ s.limits.Contains b ∧
      s.graph.Edge a b := by
  obtain ⟨e', formula', mem⟩ := ht.edge_iff.1 edge
  obtain ⟨b, e, movedB, formula, mentions⟩ := image.formulas b' e' formula'
  have mentioned := mentions a a' moved (Expr.mem_precedents.1 mem).1
  exact ⟨b, movedB, h.accepted_inside formula,
    h.edge_iff.2 ⟨e, formula, Expr.mem_precedents.2 ⟨mentioned, inside⟩⟩⟩

theorem ImageOf.path (image : t.ImageOf edit s) (h : s.Sound) (ht : t.Linked) {a a' b' : Position}
    (moved : edit.movePosition a = some a') (inside : s.limits.Contains a)
    (path : TransGen t.graph.Edge a' b') : ∃ b, edit.movePosition b = some b' ∧
      s.limits.Contains b ∧ TransGen s.graph.Edge a b := by
  induction path with
  | single edge =>
      obtain ⟨b, movedB, insideB, edge⟩ := image.edge h ht moved inside edge
      exact ⟨b, movedB, insideB, .single edge⟩
  | tail _ edge ih =>
      obtain ⟨b, movedB, insideB, front⟩ := ih
      obtain ⟨c, movedC, insideC, edge⟩ := image.edge h ht movedB insideB edge
      exact ⟨c, movedC, insideC, .tail front edge⟩

theorem ImageOf.closesCycle_eq_false (image : t.ImageOf edit s) (h : s.Sound) (ht : t.Linked)
    {p p' : Position} {e e' : Expr} (moved : edit.movePosition p = some p')
    (formula : s.formulas[p]? = some e)
    (mentions : ∀ q q', edit.movePosition q = some q' → e'.Mentions q' → e.Mentions q) :
    t.closesCycle p' e' = false := by
  have inside := h.accepted_inside formula
  have toP : ∀ q q', edit.movePosition q = some q' → s.limits.Contains q → e'.Mentions q' →
      s.graph.Edge q p := fun q q' movedQ insideQ mentioned =>
    h.edge_iff.2 ⟨e, formula, Expr.mem_precedents.2 ⟨mentions q q' movedQ mentioned, insideQ⟩⟩
  cases closes : t.closesCycle p' e' with
  | false => rfl
  | true =>
      rcases ht.mirrored.wouldCreateCycle_iff.1 closes with self | ⟨q', mem, path⟩
      · exact absurd (.single (toP p p' moved inside (Expr.mem_precedents.1 self).1)) (h.acyclic p)
      · obtain ⟨q, movedQ, insideQ, around⟩ := image.path h ht moved inside path
        have back := toP q q' movedQ insideQ (Expr.mem_precedents.1 mem).1
        exact absurd (.tail around back) (h.acyclic p)

theorem ImageOf.attach (image : t.ImageOf edit s) (h : s.Sound) (ht : t.Linked) {p p' : Position}
    (moved : edit.movePosition p = some p') (raw : t.matrix.raw p' = moveText edit (s.matrix.raw p))
    (formula : isFormulaText (s.matrix.raw p) = true) :
    (t.attach (s.isCircular p) p').ImageOf edit s := by
  have outcome := attach_cases t (s.isCircular p) p'
  rw [raw] at outcome
  rcases outcome with ⟨fault, _, eq⟩ | ⟨e', parsed, refused, eq⟩ | ⟨e', parsed, ⟨notListed, _⟩, eq⟩
  · rw [eq]
    exact ⟨image.formulas, image.circular⟩
  · obtain ⟨e, before, mentions⟩ := mentions_of_moveText formula parsed
    have listed : s.isCircular p = true := by
      cases forced : s.isCircular p with
      | true => rfl
      | false =>
          have open_ := image.closesCycle_eq_false h ht moved
            (h.toWired.formula_of_parse formula before forced) mentions
          rw [forced, open_] at refused
          simp at refused
    rw [eq]
    refine ⟨image.formulas, fun q' e₁ found => ?_⟩
    rcases PositionMap.eq_or_of_insert_at found with ⟨rfl, rfl⟩ | earlier
    · exact ⟨p, moved, listed⟩
    · exact image.circular q' e₁ earlier
  · obtain ⟨e, before, mentions⟩ := mentions_of_moveText formula parsed
    rw [eq]
    refine ⟨fun q' e₁ found => ?_, image.circular⟩
    rcases PositionMap.eq_or_of_insert_at found with ⟨rfl, rfl⟩ | earlier
    · exact ⟨p, e, moved, h.toWired.formula_of_parse formula before notListed, mentions⟩
    · exact image.formulas q' e₁ earlier

theorem ImageOf.attachAll (image : t.ImageOf edit s) (h : s.Sound) (ht : t.Linked) (forced : Bool)
    {m : Matrix} (texts : t.matrix.reread = (s.shifted edit m).matrix.reread) (ps : List Position)
    (sources : ∀ p' ∈ ps, ∃ p, edit.movePosition p = some p' ∧ s.isCircular p = forced ∧
      (s.shifted edit m).matrix.raw p' = moveText edit (s.matrix.raw p) ∧
      isFormulaText (s.matrix.raw p) = true) :
    (ps.foldl (Sheet.attach · forced) t).ImageOf edit s ∧
      (ps.foldl (Sheet.attach · forced) t).Linked := by
  induction ps generalizing t with
  | nil => exact ⟨image, ht⟩
  | cons p' ps ih =>
      rw [List.forall_mem_cons] at sources
      obtain ⟨⟨p, moved, listed, raw, formula⟩, others⟩ := sources
      have first := image.attach h ht moved ((Matrix.raw_of_reread texts p').trans raw) formula
      rw [listed] at first
      exact ih first (ht.attach forced p') ((reread_attach t forced p').trans texts) others

theorem imageOf_of_empty (m : Matrix) (edit : LineEdit) (s : Sheet) :
    ({ matrix := m } : Sheet).ImageOf edit s where
  formulas _ _ found := absurd found PositionMap.not_empty_at
  circular _ _ found := absurd found PositionMap.not_empty_at

theorem contains_movedCircular {p p' : Position} (moved : edit.movePosition p = some p') :
    (Std.ExtTreeSet.ofList (s.circularCells.filterMap edit.movePosition) : PositionSet).contains p' =
      s.isCircular p := by
  rw [← contains_circularCells, Bool.eq_iff_iff, Std.ExtTreeSet.contains_iff_mem,
    Std.ExtTreeSet.contains_iff_mem, PositionSet.mem_ofList_iff, PositionSet.mem_ofList_iff]
  exact Resolver.mem_moved moved

theorem imageOf_rewire (h : s.Sound) (named : ∀ axis : Axis, s.limits.along axis ≤ axis.bound)
    (ok : s.matrix.editLine edit = .ok m) :
    ((s.shifted edit m).rewire (s.circularCells.filterMap edit.movePosition)).ImageOf edit s := by
  have source : ∀ p' ∈ (s.shifted edit m).matrix.formulaCells, ∃ p,
      edit.movePosition p = some p' ∧
      (s.shifted edit m).matrix.raw p' = moveText edit (s.matrix.raw p) ∧
      isFormulaText (s.matrix.raw p) = true := by
    intro p' mem
    obtain ⟨c', cell', formula⟩ := Matrix.mem_formulaCells.1 mem
    obtain ⟨p, c, cell, moved, rfl⟩ := (h.shifted_at named ok).1 cell'
    have formula : isFormulaText (moveText edit c.raw) = true := formula
    rw [isFormulaText_moveText] at formula
    refine ⟨p, moved, ?_, ?_⟩
    · rw [Matrix.raw_of_cell cell', Matrix.raw_of_cell cell]
    · rwa [Matrix.raw_of_cell cell]
  have sources : ∀ forced, ∀ p' ∈ (s.shifted edit m).matrix.formulaCells,
      (Std.ExtTreeSet.ofList (s.circularCells.filterMap edit.movePosition) : PositionSet).contains p' =
        forced → ∃ p, edit.movePosition p = some p' ∧ s.isCircular p = forced ∧
      (s.shifted edit m).matrix.raw p' = moveText edit (s.matrix.raw p) ∧
      isFormulaText (s.matrix.raw p) = true := by
    intro forced p' mem listed
    obtain ⟨p, moved, rest⟩ := source p' mem
    exact ⟨p, moved, (contains_movedCircular moved).symm.trans listed, rest⟩
  unfold rewire
  dsimp only
  obtain ⟨image₁, linked₁⟩ := (imageOf_of_empty _ edit s).attachAll h (linked_of_empty _) false rfl
    ((s.shifted edit m).matrix.formulaCells.filter fun p => !(Std.ExtTreeSet.ofList
      (s.circularCells.filterMap edit.movePosition) : PositionSet).contains p) fun p' mem => by
      obtain ⟨among, notListed⟩ := List.mem_filter.1 mem
      exact sources false p' among (by rwa [Bool.not_eq_true'] at notListed)
  exact (image₁.attachAll h linked₁ true (reread_attachAll _ _ _) _ fun p' mem => by
    obtain ⟨among, listed⟩ := List.mem_filter.1 mem
    exact sources true p' among listed).1

theorem Wired.circular_of_retryCircular (h : s.Wired) {p : Position} {e : Expr}
    (circular : s.retryCircular.1.circular[p]? = some e) : s.circular[p]? = some e := by
  obtain ⟨s', new, fold, _, _, others, gone, _⟩ := retry_all h s.circularCells []
  unfold retryCircular at circular
  rw [fold] at circular
  have kept : ¬ p ∈ new := fun among => by
    rw [(gone p among).1] at circular
    cases circular
  exact (congrArg Entry.circular (others p kept)).symm.trans circular

theorem Sound.circular_of_editLine (h : s.Sound)
    (named : ∀ axis : Axis, s.limits.along axis ≤ axis.bound) (ok : s.editLine edit = .ok s')
    {p' : Position} (circular : s'.isCircular p' = true) :
    ∃ p, edit.movePosition p = some p' ∧ s.isCircular p = true := by
  obtain ⟨m, edited, rfl⟩ := editLine_eq_ok.1 ok
  have tidy : (s.shifted edit m).matrix.Tidy := h.tidy.editLine edited
  obtain ⟨wired, _⟩ := rewire_spec tidy.literals (s.circularCells.filterMap edit.movePosition)
  rw [isCircular_eq, Option.isSome_iff_exists, Sheet.rebuild_eq] at circular
  obtain ⟨e', found⟩ := circular
  exact (imageOf_rewire h named edited).circular p' e' (wired.circular_of_retryCircular found)

theorem Sound.text_of_editLine (h : s.Sound)
    (named : ∀ axis : Axis, s.limits.along axis ≤ axis.bound) (ok : s.editLine edit = .ok s')
    {p p' : Position} {c : Cell} (cell : s.matrix.cells[p]? = some c)
    (moved : edit.movePosition p = some p') :
    (s'.matrix.cells[p']?).map Cell.raw = some (moveText edit c.raw) := by
  obtain ⟨m, edited, rfl⟩ := editLine_eq_ok.1 ok
  rw [Matrix.text_of_reread (reread_rebuild _ _),
    (h.shifted_at named edited).2 ⟨p, c, cell, moved, rfl⟩]
  rfl

theorem Wired.stands_of_not_circular (h : s.Wired) {p : Position} {c : Cell}
    (cell : s.matrix.cells[p]? = some c) (formula : c.isFormula = true)
    (notCircular : s.isCircular p = false) : s.Stands p c .accepted ∨ s.Stands p c .unparseable := by
  obtain ⟨standing, stands⟩ := h.stands cell
  cases standing with
  | accepted => exact .inl stands
  | unparseable => exact .inr stands
  | literal =>
      rw [stands.1] at formula
      cases formula
  | circular =>
      obtain ⟨_, e, _, circular, _⟩ := stands
      rw [isCircular_eq, circular] at notCircular
      cases notCircular

end

end Sheet

end Spreadsheet
