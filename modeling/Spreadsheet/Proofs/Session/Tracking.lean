import Spreadsheet.Proofs.Eval.Dependence
import Spreadsheet.Proofs.Grid.Maps
import Spreadsheet.Proofs.Session.Truthfulness

namespace Spreadsheet

theorem Sheet.Sound.eval_congr {s : Sheet} (h : s.Sound) {p : Position} {e : Expr}
    (formula : s.formulas[p]? = some e) {read read' : Position → Reading CellValue}
    (agree : ∀ q, s.graph.Edge q p ∨ ¬ s.limits.Contains q → read' q = read q) :
    e.eval s.limits read' = e.eval s.limits read :=
  Expr.eval_congr e fun q mentions => agree q (h.mentioned formula mentions)

namespace Session

/-- Resolvers that agree on the precedents of an expression, and on those of pending formulas among
them, evaluate it alike. An accepted formula of a reachable session depends on no cell within the
limits besides those with an edge to it. -/
theorem dependencies_tracked :
    (∀ (r r' : Resolver) (cells : Set Position) (e : Expr) (visiting : List Position),
      r.Agree r' cells → r.Closed cells → (∀ p ∈ e.precedents r.limits, p ∈ cells) →
        evaluate r' visiting e = evaluate r visiting e) ∧
    ∀ (options : Options) (s : Session), Reachable options s → ∀ sheet ∈ s.sheets,
      ∀ (p : Position) (e : Expr), sheet.formulas[p]? = some e →
        ∀ read read' : Position → Reading CellValue,
          (∀ q, sheet.graph.Edge q p ∨ ¬ sheet.limits.Contains q → read' q = read q) →
            e.eval sheet.limits read' = e.eval sheet.limits read := by
  constructor
  · intro r r' cells e visiting agree closed precedents
    exact evaluate_congr agree closed precedents visiting
  · intro options s h sheet mem p e formula read read' agree
    exact (h.truthful sheet mem).toSound.eval_congr formula agree

def pendingChain (other : CellValue) : Resolver where
  limits := { rows := 2, columns := 2 }
  lookup p :=
    if p = ⟨1, 0⟩ then .pending (.cell { row := 1, column := 1 })
    else if p = ⟨1, 1⟩ then .settled (.text "net")
    else if p = ⟨0, 1⟩ then .settled other
    else .settled .empty
  finite := by
    refine ⟨[⟨1, 0⟩], fun p e pending => ?_⟩
    split at pending
    · rename_i same
      exact List.mem_singleton.2 same
    · split at pending
      · cases pending
      · split at pending <;> cases pending

theorem blankBeyond_pendingChain (other : CellValue) : (pendingChain other).BlankBeyond := by
  intro p beyond
  have outside : ∀ q : Position, ({ rows := 2, columns := 2 } : Limits).Contains q → p ≠ q := by
    rintro q inside rfl
    exact beyond inside
  unfold pendingChain
  dsimp only
  rw [if_neg (outside _ (by decide)), if_neg (outside _ (by decide)), if_neg (outside _ (by decide))]

theorem pendingChain_tracked :
    (pendingChain (.text "gross")).lookup ⟨0, 1⟩ ≠ (pendingChain .empty).lookup ⟨0, 1⟩ ∧
    evaluate (pendingChain (.text "gross")) [] (.cell { row := 1, column := 0 }) =
      evaluate (pendingChain .empty) [] (.cell { row := 1, column := 0 }) := by
  refine ⟨by simp [pendingChain], ?_⟩
  have agree : (pendingChain .empty).Agree (pendingChain (.text "gross")) {⟨1, 0⟩, ⟨1, 1⟩} := by
    refine ⟨rfl, blankBeyond_pendingChain _, blankBeyond_pendingChain _, ?_⟩
    rintro p (rfl | rfl) <;> rfl
  refine dependencies_tracked.1 _ _ _ _ [] agree ?_ ?_
  · rintro p (rfl | rfl) e pending q precedent
    · cases pending
      exact .inr (Expr.mentions_cell.1 (Expr.mem_precedents.1 precedent).1)
    · cases pending
  · intro p precedent
    exact .inl (Expr.mentions_cell.1 (Expr.mem_precedents.1 precedent).1)

end Session

end Spreadsheet
