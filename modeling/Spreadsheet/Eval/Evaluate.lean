import Spreadsheet.Data.Halt
import Spreadsheet.Data.ListCount
import Spreadsheet.Eval.Call
import Spreadsheet.Eval.Operator
import Spreadsheet.Formula.Fault

/-!
# Evaluation

`Expr.eval` gives the value of an expression by recursion on it, with the cells it refers to read
through a function. `Resolver.read` is such a function: it takes settled values as they are and
evaluates a pending formula on demand, except that a cell already being evaluated answers with the
error for cycles. Only finitely many cells are pending and each is entered at most once on the way
down, so reading ends however the formulas refer to one another. A call without an answer is a crash,
which no value stands in for.
-/

namespace Spreadsheet

abbrev Reading := Attempt FormulaFault

namespace Expr

/-- The cells of a range, cut at the limits; beyond them it is one blank cell. -/
def evalRange (limits : Limits) (read : Position → Reading CellValue) (r : CellRange) :
    Reading FormulaValue :=
  match r.clamped limits with
  | none => .ok (.table [[.empty]])
  | some r =>
    (r.rows.mapM fun row => r.columns.mapM fun column => read ⟨row, column⟩).map .table

mutual

def eval (limits : Limits) (read : Position → Reading CellValue) : Expr → Reading FormulaValue
  | number x => .ok (.number x)
  | text s => .ok (.text s)
  | boolean b => .ok (.boolean b)
  | error code => .ok (.error code)
  | cell ref => (read ref.toPosition).map .scalar
  | range r => evalRange limits read r
  | binary op left right => do
    let v ← eval limits read left
    let w ← eval limits read right
    return op.apply v w
  | negate e => do
    let v ← eval limits read e
    return v.negate
  | call function args =>
    match Builtin.ofName? function with
    | none => .ok (.error .unknownName)
    | some f =>
      if f.arity.Allows args.length then do
        let vs ← evalArgs limits read args
        .ofOption (f.call vs)
      else .error (.fault (.argumentCount f args.length))

def evalArgs (limits : Limits) (read : Position → Reading CellValue) :
    List Expr → Reading (List FormulaValue)
  | [] => .ok []
  | e :: rest => do
    let v ← eval limits read e
    let vs ← evalArgs limits read rest
    return v :: vs

end

end Expr

inductive CellState
  | settled (v : CellValue)
  /-- A formula whose stored value is stale. -/
  | pending (e : Expr)

structure Resolver where
  limits : Limits
  lookup : Position → CellState
  finite : ∃ keys : List Position, ∀ p e, lookup p = .pending e → p ∈ keys

namespace Resolver

def ofMaps (limits : Limits) (values : PositionMap CellValue) (pending : PositionMap Expr) :
    Resolver where
  limits
  lookup p :=
    match pending[p]? with
    | some e => .pending e
    | none => .settled (values[p]?.getD .empty)
  finite := ⟨pending.keys, fun p e h => by
    rw [Std.ExtTreeMap.mem_keys, Std.ExtTreeMap.mem_iff_isSome_getElem?]
    split at h
    · simp_all
    · cases h⟩

noncomputable def pendingKeys (r : Resolver) : List Position := Classical.choose r.finite

theorem mem_pendingKeys {r : Resolver} {p : Position} {e : Expr} (h : r.lookup p = .pending e) :
    p ∈ r.pendingKeys :=
  Classical.choose_spec r.finite p e h

noncomputable def unvisited (r : Resolver) (visiting : List Position) : Nat :=
  (r.pendingKeys.filter fun p => !visiting.contains p).length

theorem unvisited_lt {r : Resolver} {p : Position} {e : Expr} {visiting : List Position}
    (h : r.lookup p = .pending e) (fresh : ¬ p ∈ visiting) :
    r.unvisited (p :: visiting) < r.unvisited visiting := by
  refine length_filter_lt (a := p) ?_ (mem_pendingKeys h) ?_ ?_
  · intro q hq
    simp_all
  · simpa using fresh
  · simp

/-- Reads a cell while the cells `visiting` are being evaluated. -/
def read (r : Resolver) (visiting : List Position) (p : Position) : Reading CellValue :=
  match h : r.lookup p with
  | .settled v => .ok v
  | .pending e =>
    if fresh : p ∈ visiting then .ok (.error .circular)
    else
      have := unvisited_lt h fresh
      (e.eval r.limits fun q => read r (p :: visiting) q).map FormulaValue.toCell
termination_by r.unvisited visiting

end Resolver

def evaluate (r : Resolver) (visiting : List Position) (e : Expr) : Reading FormulaValue :=
  e.eval r.limits (r.read visiting)

def evaluateCell (r : Resolver) (p : Position) (e : Expr) : Option CellValue :=
  match evaluate r [p] e with
  | .ok v => some v.toCell
  | .error (.fault fault) => some (.error fault.code)
  | .error .crash => none

end Spreadsheet
