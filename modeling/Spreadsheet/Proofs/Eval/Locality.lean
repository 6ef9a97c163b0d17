import Spreadsheet.Eval.Evaluate
import Spreadsheet.Formula.Move
import Spreadsheet.Proofs.Formula.WellFormed
import Spreadsheet.Proofs.Grid.Expansion
import Spreadsheet.Proofs.Grid.Maps

namespace Spreadsheet.Expr

def Mentions (e : Expr) (p : Position) : Prop := ∃ r ∈ e.references, r.Contains p

theorem mentions_cell {ref : CellRef} {p : Position} : (cell ref).Mentions p ↔ p = ref.toPosition := by
  unfold Mentions
  rw [references]
  simp only [List.mem_singleton, exists_eq_left]
  unfold CellRange.Contains CellRange.single
  constructor
  · rintro ⟨⟨low, high⟩, left, right⟩
    have row : p.row = ref.row := Nat.le_antisymm high low
    have column : p.column = ref.column := Nat.le_antisymm right left
    show (⟨p.row, p.column⟩ : Position) = ⟨ref.row, ref.column⟩
    rw [row, column]
  · rintro rfl
    exact ⟨⟨Nat.le_refl _, Nat.le_refl _⟩, Nat.le_refl _, Nat.le_refl _⟩

theorem mem_precedents {limits : Limits} {e : Expr} {p : Position} :
    p ∈ e.precedents limits ↔ e.Mentions p ∧ limits.Contains p := by
  unfold precedents Mentions
  rw [PositionSet.mem_ofList_iff, List.mem_flatMap]
  constructor
  · rintro ⟨r, mem, listed⟩
    cases clamped : r.clamped limits with
    | none =>
        rw [clamped] at listed
        cases listed
    | some r' =>
        rw [clamped] at listed
        have both := (CellRange.contains_clamped clamped).1 (CellRange.mem_positions.1 listed)
        exact ⟨⟨r, mem, both.1⟩, both.2⟩
  · rintro ⟨⟨r, mem, contains⟩, inside⟩
    refine ⟨r, mem, ?_⟩
    cases clamped : r.clamped limits with
    | none => exact absurd inside (CellRange.clamped_eq_none_iff.1 clamped p contains)
    | some r' =>
        exact CellRange.mem_positions.2 ((CellRange.contains_clamped clamped).2 ⟨contains, inside⟩)

theorem mapM_congr {α β : Type} {f g : α → Reading β} {xs : List α} (h : ∀ x ∈ xs, f x = g x) :
    xs.mapM f = xs.mapM g := by
  induction xs with
  | nil => rfl
  | cons x xs ih =>
      rw [List.mapM_cons, List.mapM_cons, h x List.mem_cons_self,
        ih fun y mem => h y (List.mem_cons_of_mem _ mem)]

inductive Reads (limits : Limits) : Expr → Position → Prop
  | cell (ref : CellRef) : Reads limits (.cell ref) ref.toPosition
  | range {r : CellRange} {p : Position} :
      r.Contains p → limits.Contains p → Reads limits (.range r) p
  | left {op : BinaryOp} {left right : Expr} {p : Position} :
      Reads limits left p → Reads limits (.binary op left right) p
  | right {op : BinaryOp} {left right : Expr} {p : Position} :
      Reads limits right p → Reads limits (.binary op left right) p
  | negated {e : Expr} {p : Position} : Reads limits e p → Reads limits (.negate e) p
  | argument {function : String} {args : List Expr} {a : Expr} {p : Position} :
      a ∈ args → Reads limits a p → Reads limits (.call function args) p

theorem Reads.mentions {limits : Limits} {e : Expr} {p : Position} (h : e.Reads limits p) :
    e.Mentions p := by
  induction h with
  | cell ref => exact mentions_cell.2 rfl
  | @range r _ contains _ => exact ⟨r, by simp [references], contains⟩
  | left _ ih =>
      obtain ⟨r, mem, contains⟩ := ih
      exact ⟨r, by simp [references, mem], contains⟩
  | right _ ih =>
      obtain ⟨r, mem, contains⟩ := ih
      exact ⟨r, by simp [references, mem], contains⟩
  | negated _ ih =>
      obtain ⟨r, mem, contains⟩ := ih
      exact ⟨r, by simp [references, mem], contains⟩
  | @argument function args a _ inArgs _ ih =>
      obtain ⟨r, mem, contains⟩ := ih
      have listed : r ∈ argReferences args := mem_argReferences.2 ⟨a, inArgs, mem⟩
      exact ⟨r, by simp [references, listed], contains⟩

theorem evalRange_congr {limits : Limits} {read read' : Position → Reading CellValue} {r : CellRange}
    (agree : ∀ p, r.Contains p → limits.Contains p → read p = read' p) :
    evalRange limits read r = evalRange limits read' r := by
  unfold evalRange
  cases clamped : r.clamped limits with
  | none => rfl
  | some r' =>
      dsimp only
      congr 1
      refine mapM_congr fun row inRows => mapM_congr fun column inColumns => ?_
      have listed : (⟨row, column⟩ : Position) ∈ r'.positions :=
        CellRange.mem_positions_iff_lines.2 ⟨inRows, inColumns⟩
      obtain ⟨contains, inside⟩ :=
        (CellRange.contains_clamped clamped).1 (CellRange.mem_positions.1 listed)
      exact agree _ contains inside

mutual

theorem eval_congr_reads {limits : Limits} {read read' : Position → Reading CellValue} :
    (e : Expr) → (∀ p, e.Reads limits p → read p = read' p) →
      e.eval limits read = e.eval limits read'
  | .number _, _ => by simp only [eval]
  | .text _, _ => by simp only [eval]
  | .boolean _, _ => by simp only [eval]
  | .error _, _ => by simp only [eval]
  | .cell ref, agree => by
      simp only [eval, agree _ (.cell ref)]
  | .range r, agree => by
      simp only [eval]
      exact evalRange_congr fun p contains inside => agree p (.range contains inside)
  | .binary op left right, agree => by
      have onLeft : left.eval limits read = left.eval limits read' :=
        eval_congr_reads left fun p reads => agree p (.left reads)
      have onRight : right.eval limits read = right.eval limits read' :=
        eval_congr_reads right fun p reads => agree p (.right reads)
      simp only [eval, onLeft, onRight]
  | .negate e, agree => by
      have inner : e.eval limits read = e.eval limits read' :=
        eval_congr_reads e fun p reads => agree p (.negated reads)
      simp only [eval, inner]
  | .call function args, agree => by
      have inside : evalArgs limits read args = evalArgs limits read' args :=
        evalArgs_congr_reads args fun p ⟨a, mem, reads⟩ => agree p (.argument mem reads)
      simp only [eval, inside]

theorem evalArgs_congr_reads {limits : Limits} {read read' : Position → Reading CellValue} :
    (args : List Expr) → (∀ p, (∃ a ∈ args, a.Reads limits p) → read p = read' p) →
      evalArgs limits read args = evalArgs limits read' args
  | [], _ => by simp only [evalArgs]
  | e :: rest, agree => by
      have first : e.eval limits read = e.eval limits read' :=
        eval_congr_reads e fun p reads => agree p ⟨e, List.mem_cons_self, reads⟩
      have others : evalArgs limits read rest = evalArgs limits read' rest :=
        evalArgs_congr_reads rest fun p ⟨a, mem, reads⟩ => agree p ⟨a, List.mem_cons_of_mem _ mem, reads⟩
      simp only [evalArgs, first, others]

end

theorem eval_congr {limits : Limits} {read read' : Position → Reading CellValue} (e : Expr)
    (agree : ∀ p, e.Mentions p → read p = read' p) : e.eval limits read = e.eval limits read' :=
  eval_congr_reads e fun p reads => agree p reads.mentions

end Spreadsheet.Expr
