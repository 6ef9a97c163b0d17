import Spreadsheet.Proofs.Eval.Dependence
import Spreadsheet.Proofs.Formula.Shifting

/-!
# Evaluation under line edits

Where a line edit keeps the cells of every reference together, the moved expression evaluates on the
moved cells as the old one does on the old cells. The two evaluations run side by side: one enters a
pending cell where the other enters the cell that it moves to.
-/

namespace Spreadsheet

namespace Expr

theorem mentions_of_move {edit : LineEdit} {e : Expr} {p p' : Position}
    (moved : edit.movePosition p = some p') (mentions : (e.move edit).Mentions p') : e.Mentions p := by
  obtain ⟨r', mem, contains⟩ := mentions
  rw [references_move] at mem
  obtain ⟨r, before, range⟩ := List.mem_filterMap.1 mem
  exact ⟨r, before, (LineEdit.contains_moveRange range moved).1 contains⟩

theorem evalRange_inside {limits : Limits} {read : Position → Reading CellValue} {r : CellRange}
    (inside : limits.Contains r.last.toPosition) :
    evalRange limits read r =
      ((List.range r.rowCount).mapM fun i => (List.range r.columnCount).mapM fun j =>
        read ⟨r.first.row + i, r.first.column + j⟩).map .table := by
  unfold evalRange
  rw [CellRange.clamped_inside inside]
  simp only [CellRange.rows, CellRange.columns, List.range'_eq_map_range, List.mapM_map,
    Function.comp_def]

theorem evalRange_move {edit : LineEdit} {limits : Limits} {r : CellRange}
    {read read' : Position → Reading CellValue} (carried : edit.Carries limits r)
    (agree : ∀ p p', r.Contains p → edit.movePosition p = some p' → read' p' = read p) :
    ∃ r', edit.moveRange r = some r' ∧ evalRange limits read' r' = evalRange limits read r := by
  obtain ⟨r', moved, inside, ⟨rows, columns⟩, cells⟩ := carried.shifted
  refine ⟨r', moved, ?_⟩
  rw [evalRange_inside inside, evalRange_inside carried.inside, rows, columns]
  congr 1
  refine mapM_congr fun i inRows => mapM_congr fun j inColumns => ?_
  have row := List.mem_range.1 inRows
  have column := List.mem_range.1 inColumns
  refine agree _ _ ?_ (cells i row j column)
  have rowLe := r.row_le
  have columnLe := r.column_le
  unfold CellRange.rowCount at row
  unfold CellRange.columnCount at column
  exact ⟨⟨by dsimp only; omega, by dsimp only; omega⟩, by dsimp only; omega, by dsimp only; omega⟩

mutual

theorem eval_move {edit : LineEdit} {limits : Limits} {read read' : Position → Reading CellValue} :
    (e : Expr) → (∀ r ∈ e.references, edit.Carries limits r) →
      (∀ p p', e.Mentions p → edit.movePosition p = some p' → read' p' = read p) →
      (e.move edit).eval limits read' = e.eval limits read
  | .number _, _, _ => by simp only [move, eval]
  | .text _, _, _ => by simp only [move, eval]
  | .boolean _, _, _ => by simp only [move, eval]
  | .error _, _, _ => by simp only [move, eval]
  | .cell ref, carried, agree => by
      obtain ⟨r', moved, -⟩ := (carried (.single ref) (by simp [references])).lands
      rw [LineEdit.moveRange_single, Option.map_eq_some_iff] at moved
      obtain ⟨ref', movedRef, rfl⟩ := moved
      obtain ⟨p', movedTo, rfl⟩ := Option.map_eq_some_iff.1 movedRef
      rw [move, movedRef]
      simp only [Option.map_some, Option.getD_some, eval]
      rw [show (ref.movedTo p').toPosition = p' from rfl, agree _ p' (mentions_cell.2 rfl) movedTo]
  | .range r, carried, agree => by
      have within : ∀ p p', r.Contains p → edit.movePosition p = some p' → read' p' = read p :=
        fun p p' contains => agree p p' ⟨r, by simp [references], contains⟩
      obtain ⟨r', moved, same⟩ := evalRange_move (carried r (by simp [references])) within
      rw [move, moved]
      simp only [Option.map_some, Option.getD_some, eval]
      exact same
  | .binary op left right, carried, agree => by
      have onLeft : (left.move edit).eval limits read' = left.eval limits read :=
        eval_move left (fun r mem => carried r (by simp [references, mem]))
          fun p p' ⟨r, mem, contains⟩ => agree p p' ⟨r, by simp [references, mem], contains⟩
      have onRight : (right.move edit).eval limits read' = right.eval limits read :=
        eval_move right (fun r mem => carried r (by simp [references, mem]))
          fun p p' ⟨r, mem, contains⟩ => agree p p' ⟨r, by simp [references, mem], contains⟩
      simp only [move, eval, onLeft, onRight]
  | .negate e, carried, agree => by
      have inner : (e.move edit).eval limits read' = e.eval limits read :=
        eval_move e (fun r mem => carried r (by simp [references, mem]))
          fun p p' ⟨r, mem, contains⟩ => agree p p' ⟨r, by simp [references, mem], contains⟩
      simp only [move, eval, inner]
  | .call function args, carried, agree => by
      have inside : evalArgs limits read' (moveArgs edit args) = evalArgs limits read args :=
        evalArgs_move args (fun r mem => carried r (by simp [references, mem]))
          fun p p' ⟨r, mem, contains⟩ => agree p p' ⟨r, by simp [references, mem], contains⟩
      have count : (moveArgs edit args).length = args.length := by
        rw [moveArgs_eq_map, List.length_map]
      simp only [move, eval, inside, count]

theorem evalArgs_move {edit : LineEdit} {limits : Limits} {read read' : Position → Reading CellValue} :
    (args : List Expr) → (∀ r ∈ argReferences args, edit.Carries limits r) →
      (∀ p p', (∃ r ∈ argReferences args, r.Contains p) → edit.movePosition p = some p' →
        read' p' = read p) →
      evalArgs limits read' (moveArgs edit args) = evalArgs limits read args
  | [], _, _ => by simp only [moveArgs, evalArgs]
  | e :: rest, carried, agree => by
      have first : (e.move edit).eval limits read' = e.eval limits read :=
        eval_move e (fun r mem => carried r (by simp [argReferences, mem]))
          fun p p' ⟨r, mem, contains⟩ => agree p p' ⟨r, by simp [argReferences, mem], contains⟩
      have others : evalArgs limits read' (moveArgs edit rest) = evalArgs limits read rest :=
        evalArgs_move rest (fun r mem => carried r (by simp [argReferences, mem]))
          fun p p' ⟨r, mem, contains⟩ => agree p p' ⟨r, by simp [argReferences, mem], contains⟩
      simp only [moveArgs, evalArgs, first, others]

end

end Expr

def CellState.move (edit : LineEdit) : CellState → CellState
  | settled v => .settled v
  | pending e => .pending ((e.moved? edit).getD e)

namespace Resolver

structure MovesTo (r : Resolver) (edit : LineEdit) (r' : Resolver) : Prop where
  limits : r'.limits = r.limits
  lookup : ∀ p p', edit.movePosition p = some p' → r'.lookup p' = (r.lookup p).move edit

/-- The expressions that the evaluation of `e` in the cell `root` comes upon: `e` itself and the
pending formulas of cells that one of them mentions, but not of `root`, which is under evaluation. -/
inductive Meets (r : Resolver) (root : Position) (e : Expr) : Expr → Prop
  | self : Meets r root e e
  | pending {f g : Expr} {p : Position} : Meets r root e f → f.Mentions p → p ≠ root →
      r.lookup p = .pending g → Meets r root e g

section
variable {r r' : Resolver} {edit : LineEdit} {root : Position} {e : Expr}

theorem mem_moved {visiting : List Position} {p p' : Position}
    (moved : edit.movePosition p = some p') :
    p' ∈ visiting.filterMap edit.movePosition ↔ p ∈ visiting := by
  rw [List.mem_filterMap]
  constructor
  · rintro ⟨q, mem, same⟩
    rwa [LineEdit.movePosition_injective moved same]
  · intro mem
    exact ⟨p, mem, moved⟩

theorem MovesTo.read (moves : r.MovesTo edit r')
    (carried : ∀ f, r.Meets root e f → ∀ range ∈ f.references, edit.Carries r.limits range)
    (visiting : List Position) (p : Position) (started : root ∈ visiting) {f : Expr}
    (met : r.Meets root e f) (mentions : f.Mentions p) {p' : Position}
    (moved : edit.movePosition p = some p') :
    r'.read (visiting.filterMap edit.movePosition) p' = r.read visiting p := by
  -- The induction goes along the stack of cells under evaluation, of which the other resolver has
  -- the moved ones. No two cells move to one, so a cell is entered twice in neither or in both.
  have there := moves.lookup p p' moved
  fun_induction r.read visiting p generalizing f p' with
  | case1 visiting p v settled =>
      rw [settled] at there
      exact read_settled there _
  | case2 visiting p g pending entered =>
      rw [pending] at there
      exact read_visiting there ((mem_moved moved).2 entered)
  | case3 visiting p g pending fresh less ih =>
      rw [pending, CellState.move, Expr.moved?_getD] at there
      have other : p ≠ root := fun same => fresh (same ▸ started)
      have next : r.Meets root e g := .pending met mentions other pending
      rw [read_pending there fun entered => fresh ((mem_moved moved).1 entered), moves.limits]
      congr 1
      refine Expr.eval_move g (carried g next) fun q q' mentionsQ movedQ => ?_
      have down := ih q (List.mem_cons_of_mem _ started) next mentionsQ movedQ
        (moves.lookup q q' movedQ)
      rwa [List.filterMap_cons_some moved] at down

/-- Moving all formulas and cells preserves the value of a cell, if the references that its evaluation
comes upon lie within the limits before and after and none of them touches the edited line. -/
theorem MovesTo.evaluateCell_moved (moves : r.MovesTo edit r') {root' : Position}
    (survives : edit.movePosition root = some root')
    (carried : ∀ f, r.Meets root e f → ∀ range ∈ f.references, edit.Carries r.limits range) :
    evaluateCell r' root' ((e.moved? edit).getD e) = evaluateCell r root e := by
  unfold evaluateCell evaluate
  rw [Expr.moved?_getD, moves.limits]
  have same : (e.move edit).eval r.limits (r'.read [root']) = e.eval r.limits (r.read [root]) := by
    refine Expr.eval_move e (carried e .self) fun p p' mentions moved => ?_
    have down := moves.read carried [root] p List.mem_cons_self .self mentions moved
    rwa [List.filterMap_cons_some survives, List.filterMap_nil] at down
  rw [same]

end

def staleBelow (n : Nat) : Resolver where
  limits := { rows := 4, columns := 2 }
  lookup p :=
    if p = ⟨n + 2, 0⟩ then .pending (.cell { row := n + 1, column := 0 })
    else if p = ⟨n + 1, 0⟩ then .settled (.number 4)
    else if p = ⟨0, 0⟩ then .settled (.number 1)
    else .settled .empty
  finite := by
    refine ⟨[⟨n + 2, 0⟩], fun p e pending => ?_⟩
    split at pending
    · rename_i same
      exact List.mem_singleton.2 same
    · split at pending
      · cases pending
      · split at pending <;> cases pending

theorem staleBelow_moves : (staleBelow 0).MovesTo (.insert .row 1) (staleBelow 1) := by
  refine ⟨rfl, fun p p' moved => ?_⟩
  have apart : ∀ q q', (LineEdit.insert .row 1).movePosition q = some q' → p ≠ q → p' ≠ q' :=
    fun q q' movedQ other same => other (LineEdit.movePosition_injective moved (same ▸ movedQ))
  by_cases pending : p = ⟨2, 0⟩
  · subst pending
    cases moved
    rfl
  by_cases below : p = ⟨1, 0⟩
  · subst below
    cases moved
    rfl
  by_cases first : p = ⟨0, 0⟩
  · subst first
    cases moved
    rfl
  simp only [staleBelow, pending, below, first, apart _ ⟨3, 0⟩ rfl pending,
    apart _ ⟨2, 0⟩ rfl below, apart _ ⟨0, 0⟩ rfl first, if_false, CellState.move]

def sumBelow : Expr :=
  .binary .add (.cell { row := 0, column := 0 })
    (.call "SUM" [.range (.between { row := 1, column := 0 } { row := 2, column := 0 })])

theorem staleBelow_carried :
    evaluateCell (staleBelow 1) ⟨0, 1⟩ ((sumBelow.moved? (.insert .row 1)).getD sumBelow) =
      evaluateCell (staleBelow 0) ⟨0, 1⟩ sumBelow := by
  have met : ∀ f, (staleBelow 0).Meets ⟨0, 1⟩ sumBelow f →
      f = sumBelow ∨ f = .cell { row := 1, column := 0 } := by
    intro f meets
    cases meets with
    | self => exact .inl rfl
    | pending _ _ _ found =>
        unfold staleBelow at found
        dsimp only at found
        split at found
        · cases found
          exact .inr rfl
        · split at found
          · cases found
          · split at found <;> cases found
  refine staleBelow_moves.evaluateCell_moved rfl fun f meets range mem => ?_
  rcases met f meets with rfl | rfl
  · simp only [sumBelow, Expr.references, Expr.argReferences, List.append_nil, List.cons_append,
      List.nil_append, List.mem_cons, List.not_mem_nil, or_false] at mem
    rcases mem with rfl | rfl
    · exact ⟨by decide, by decide, _, rfl, by decide⟩
    · exact ⟨by decide, by decide, _, rfl, by decide⟩
  · simp only [Expr.references, List.mem_singleton] at mem
    subst mem
    exact ⟨by decide, by decide, _, rfl, by decide⟩

end Resolver

end Spreadsheet
