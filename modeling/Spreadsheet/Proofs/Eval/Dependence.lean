import Mathlib.Data.Set.Basic
import Spreadsheet.Proofs.Eval.Locality

namespace Spreadsheet

namespace Resolver

theorem read_settled {r : Resolver} {p : Position} {v : CellValue} (h : r.lookup p = .settled v)
    (visiting : List Position) : r.read visiting p = .ok v := by
  rw [read]
  split
  · rename_i v' found
    rw [h] at found
    cases found
    rfl
  · rename_i found
    rw [h] at found
    cases found

theorem read_pending {r : Resolver} {p : Position} {e : Expr} (h : r.lookup p = .pending e)
    {visiting : List Position} (fresh : ¬ p ∈ visiting) :
    r.read visiting p = (e.eval r.limits (r.read (p :: visiting))).map FormulaValue.toCell := by
  rw [read]
  split
  · rename_i found
    rw [h] at found
    cases found
  · rename_i e' found
    rw [h] at found
    cases found
    rw [dif_neg fresh]

theorem read_visiting {r : Resolver} {p : Position} {e : Expr} (h : r.lookup p = .pending e)
    {visiting : List Position} (entered : p ∈ visiting) :
    r.read visiting p = .ok (.error .circular) := by
  rw [read]
  split
  · rename_i found
    rw [h] at found
    cases found
  · rw [dif_pos entered]

def BlankBeyond (r : Resolver) : Prop := ∀ p, ¬ r.limits.Contains p → r.lookup p = .settled .empty

structure Agree (r r' : Resolver) (cells : Set Position) : Prop where
  limits : r'.limits = r.limits
  blank : r.BlankBeyond
  blank' : r'.BlankBeyond
  lookup : ∀ p ∈ cells, r'.lookup p = r.lookup p

/-- The precedents of a formula pending in one of the cells are among the cells too. -/
def Closed (r : Resolver) (cells : Set Position) : Prop :=
  ∀ p ∈ cells, ∀ e, r.lookup p = .pending e → ∀ q ∈ e.precedents r.limits, q ∈ cells

theorem mentioned_of_precedents {limits : Limits} {e : Expr} {cells : Set Position}
    (precedents : ∀ q ∈ e.precedents limits, q ∈ cells) :
    ∀ q, e.Mentions q → q ∈ cells ∨ ¬ limits.Contains q := by
  intro q mentions
  by_cases inside : limits.Contains q
  · exact .inl (precedents q (Expr.mem_precedents.2 ⟨mentions, inside⟩))
  · exact .inr inside

section
variable {r r' : Resolver} {cells : Set Position}

theorem Agree.known (h : r.Agree r' cells) {p : Position}
    (known : p ∈ cells ∨ ¬ r.limits.Contains p) : r'.lookup p = r.lookup p := by
  rcases known with mem | beyond
  · exact h.lookup p mem
  · rw [h.blank p beyond, h.blank' p (by rwa [h.limits])]

theorem Agree.read (h : r.Agree r' cells) (closed : r.Closed cells) (visiting : List Position)
    (p : Position) (known : p ∈ cells ∨ ¬ r.limits.Contains p) :
    r'.read visiting p = r.read visiting p := by
  -- The induction goes along the stack of cells under evaluation: where one resolver enters a
  -- pending cell, so does the other, and both go on with the same stack.
  have same := h.known known
  fun_induction r.read visiting p with
  | case1 visiting p v settled => exact read_settled (same.trans settled) visiting
  | case2 visiting p e pending entered => exact read_visiting (same.trans pending) entered
  | case3 visiting p e pending fresh less ih =>
      have mem : p ∈ cells := by
        refine known.resolve_right fun beyond => ?_
        rw [h.blank p beyond] at pending
        cases pending
      have mentioned := mentioned_of_precedents (closed p mem e pending)
      rw [read_pending (same.trans pending) fresh, h.limits]
      congr 1
      exact Expr.eval_congr e fun q mentions =>
        ih q (mentioned q mentions) (h.known (mentioned q mentions))

end

end Resolver

theorem evaluate_congr {r r' : Resolver} {cells : Set Position} (agree : r.Agree r' cells)
    (closed : r.Closed cells) {e : Expr} (precedents : ∀ p ∈ e.precedents r.limits, p ∈ cells)
    (visiting : List Position) : evaluate r' visiting e = evaluate r visiting e := by
  unfold evaluate
  rw [agree.limits]
  exact Expr.eval_congr e fun q mentions =>
    agree.read closed visiting q (Resolver.mentioned_of_precedents precedents q mentions)

end Spreadsheet
