import Spreadsheet.Proofs.Eval.Errors

namespace Spreadsheet

namespace Resolver

def Evaluates (r : Resolver) (p : Position) (e : Expr) : Prop := ∃ v, evaluate r [p] e = .ok v

def EvaluatesToRange (r : Resolver) (p : Position) (e : Expr) : Prop :=
  ∃ rows, evaluate r [p] e = .ok (.table rows)

variable {r : Resolver} {p : Position} {e x f : Expr} {v w : FormulaValue}

def shownAt : Halt FormulaFault → Option CellValue
  | .fault fault => some (.error fault.code)
  | .crash => none

theorem evaluateCell_of_ok (value : evaluate r [p] e = .ok v) : evaluateCell r p e = some v.toCell := by
  rw [evaluateCell, value]

theorem evaluateCell_of_error {halt : Halt FormulaFault} (failed : evaluate r [p] e = .error halt) :
    evaluateCell r p e = shownAt halt := by
  rw [evaluateCell, failed]
  cases halt <;> rfl

theorem evaluate_iferror (visiting : List Position) :
    evaluate r visiting (.call "IFERROR" [x, f]) =
      Expr.evalArgs r.limits (r.read visiting) [x, f] >>= fun vs => .ofOption (Builtin.iferror.call vs) := by
  rw [evaluate, Expr.eval, show Builtin.ofName? "IFERROR" = some .iferror from Builtin.ofName_name .iferror]
  exact if_pos (show Builtin.iferror.arity.Allows 2 by decide)

theorem evaluate_iferror_of_ok (first : evaluate r [p] x = .ok v)
    (second : evaluate r [p] f = .ok w) :
    evaluate r [p] (.call "IFERROR" [x, f]) = .ok (Logic.orElse v w) := by
  have args : Expr.evalArgs r.limits (r.read [p]) [x, f] = .ok [v, w] :=
    Expr.evalArgs_eq_ok.2 (.cons first (.cons second .nil))
  rw [evaluate_iferror, args]
  rfl

theorem evaluate_iferror_of_value {halt : Halt FormulaFault}
    (first : evaluate r [p] x = .error halt) :
    evaluate r [p] (.call "IFERROR" [x, f]) = .error halt := by
  have args : Expr.evalArgs r.limits (r.read [p]) [x, f] = .error halt := by
    rw [evaluate] at first
    rw [Expr.evalArgs, first]
    rfl
  rw [evaluate_iferror, args]
  rfl

theorem evaluate_iferror_of_fallback {halt : Halt FormulaFault} (first : evaluate r [p] x = .ok v)
    (second : evaluate r [p] f = .error halt) :
    evaluate r [p] (.call "IFERROR" [x, f]) = .error halt := by
  have args : Expr.evalArgs r.limits (r.read [p]) [x, f] = .error halt := by
    rw [evaluate] at first second
    rw [Expr.evalArgs, first, Expr.evalArgs, second]
    rfl
  rw [evaluate_iferror, args]
  rfl

end Resolver

namespace Logic
variable {v w : FormulaValue}

theorem orElse_of_error (shown : v.toCell.isError = true) (noTable : ∀ rows, v ≠ .table rows) :
    orElse v w = w := by
  cases v with
  | table rows => exact absurd rfl (noTable rows)
  | scalar c =>
      cases c with
      | error code => rfl
      | empty | number | text | boolean => cases shown

theorem orElse_of_kept (kept : v.toCell.isError = false ∨ ∃ rows, v = .table rows) :
    orElse v w = v := by
  cases v with
  | table rows => rfl
  | scalar c =>
      cases c with
      | empty | number | text | boolean => rfl
      | error code => rcases kept with shown | ⟨rows, range⟩ <;> contradiction

end Logic

open Resolver

namespace Resolver

def halfWritten : Resolver where
  limits := { rows := 2, columns := 2 }
  lookup p := if p = ⟨0, 1⟩ then .pending (.call "ABS" []) else .settled .empty
  finite := by
    refine ⟨[⟨0, 1⟩], fun p e pending => ?_⟩
    split at pending
    · rename_i same
      exact List.mem_singleton.2 same
    · cases pending

def firstColumn : Expr := .range (.between { row := 0, column := 0 } { row := 1, column := 0 })

def halfFormula : Expr := .cell { row := 0, column := 1 }

theorem evaluate_firstColumn (p : Position) :
    evaluate halfWritten [p] firstColumn = .ok (.table [[.empty], [.empty]]) :=
  Expr.eval_range_eq_ok.2 (.inr ⟨_, rfl, _, .cons (.cons (read_settled rfl _) .nil)
    (.cons (.cons (read_settled rfl _) .nil) .nil), rfl⟩)

theorem evaluate_halfFormula :
    evaluate halfWritten [⟨1, 1⟩] halfFormula = .error (.fault (.argumentCount .abs 0)) := by
  rw [evaluate, halfFormula, Expr.eval, CellRef.toPosition, read_pending rfl (by decide), Expr.eval,
    show Builtin.ofName? "ABS" = some .abs from Builtin.ofName_name .abs]
  rfl

end Resolver

end Spreadsheet
