import Spreadsheet.Eval.Evaluate
import Spreadsheet.Formula.Move
import Spreadsheet.Formula.Parser
import Spreadsheet.Graph.Reach
import Spreadsheet.Sheet.Snapshot

namespace Spreadsheet

structure Sheet where
  matrix : Matrix
  formulas : PositionMap Expr := ∅
  /-- Formulas kept out of the graph because they would close a cycle. -/
  circular : PositionMap Expr := ∅
  graph : Graph := .empty

structure CellView where
  position : Position
  raw : String
  value : CellValue
  diagnostic : Option String
  pending : Bool

namespace CellView

def isBlank (v : CellView) : Bool := v.raw == ""

def isFormula (v : CellView) : Bool := isFormulaText v.raw

def blank (p : Position) : CellView := ⟨p, "", .empty, none, false⟩

end CellView

namespace Sheet

def name (s : Sheet) : String := s.matrix.name

def limits (s : Sheet) : Limits := s.matrix.limits

def circularCells (s : Sheet) : List Position := s.circular.keys

def formula? (s : Sheet) (p : Position) : Option Expr := s.formulas[p]? <|> s.circular[p]?

def isCircular (s : Sheet) (p : Position) : Bool := s.circular.contains p

def errorCount (s : Sheet) : Nat := s.matrix.cells.toList.countP fun (_, c) => c.value.isError

def snapshot (s : Sheet) : MatrixSnapshot := s.matrix.snapshot s.circularCells

def lookup (s : Sheet) (p : Position) : CellState :=
  match s.matrix.cells[p]? with
  | none => .settled .empty
  | some c =>
    if c.dirty then
      match s.formulas[p]? with
      | some e => .pending e
      | none => .settled c.value
    else .settled c.value

theorem mem_formulas_of_lookup {s : Sheet} {p : Position} {e : Expr}
    (h : s.lookup p = .pending e) : s.formulas[p]? = some e := by
  unfold lookup at h
  split at h
  · cases h
  · split at h
    · split at h
      · cases h
        assumption
      · cases h
    · cases h

def resolver (s : Sheet) : Resolver where
  limits := s.limits
  lookup := s.lookup
  finite := ⟨s.formulas.keys, fun p e h => by
    rw [Std.ExtTreeMap.mem_keys, Std.ExtTreeMap.mem_iff_isSome_getElem?,
      mem_formulas_of_lookup h]
    rfl⟩

/-- A cell as readers see it, with a stale formula evaluated on demand. -/
def view (s : Sheet) (p : Position) : Option CellView :=
  match s.matrix.cells[p]? with
  | none => some (.blank p)
  | some c =>
    match s.formulas[p]?, c.dirty with
    | some e, true =>
      (evaluateCell s.resolver p e).map fun value => ⟨p, c.raw, value, c.diagnostic, true⟩
    | _, _ => some ⟨p, c.raw, c.value, c.diagnostic, c.dirty⟩

end Sheet

end Spreadsheet
