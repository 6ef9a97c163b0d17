import Spreadsheet.Proofs.Session.Crash

namespace Spreadsheet
open Relation (TransGen)

def Matrix.Refers (m : Matrix) (q p : Position) : Prop :=
  ∃ e, formulaOf? (m.raw p) = some e ∧ q ∈ e.precedents m.limits

namespace Sheet
variable {s : Sheet}

theorem Wired.refers_of_edge (h : s.Wired) {p q : Position} (edge : s.graph.Edge q p) :
    s.matrix.Refers q p := by
  obtain ⟨e, formula, mem⟩ := h.edge_iff.1 edge
  rw [h.formulas_at] at formula
  split at formula
  · cases formula
  · exact ⟨e, formula, mem⟩

theorem Sound.circularCells_eq_nil_iff (h : s.Sound) :
    s.circularCells = [] ↔ ∀ p, ¬ TransGen s.matrix.Refers p p := by
  constructor
  · intro none p path
    have accepted : ∀ a b, s.matrix.Refers a b → s.graph.Edge a b := by
      rintro a b ⟨e, spelled, mem⟩
      refine h.edge_iff.2 ⟨e, ?_, mem⟩
      have notListed : s.isCircular b = false := by
        rw [← contains_circularCells, none]
        rfl
      rw [h.toWired.formulas_at, notListed, spelled]
      rfl
    exact h.acyclic p (TransGen.mono accepted _ _ path)
  · intro acyclic
    refine List.eq_nil_iff_forall_not_mem.2 fun p mem => ?_
    obtain ⟨e, circular⟩ := (PositionMap.mem_keys_iff _ _).1 mem
    have toP : ∀ q ∈ e.precedents s.limits, s.matrix.Refers q p :=
      fun q mem => ⟨e, h.toWired.spelled_of_circular circular, mem⟩
    rcases h.mirrored.wouldCreateCycle_iff.1 (h.blocked p e circular) with self | ⟨q, mem, path⟩
    · exact acyclic p (.single (toP p self))
    · have around := TransGen.mono (fun _ _ edge => h.toWired.refers_of_edge edge) _ _ path
      exact acyclic p (around.tail (toP q mem))

end Sheet

namespace Session

def enteredInOrder : Session := reached {}
  [.addMatrix "S", .setCell "S" ⟨0, 1⟩ "net" false, .setCell "S" ⟨0, 0⟩ "=B1" false]

/-- The same texts in the end, but the formula was circular for a while and was never evaluated. -/
def healedUnevaluated : Session := reached {}
  [.addMatrix "T", .setCell "T" ⟨0, 1⟩ "=A1" true, .setCell "T" ⟨0, 0⟩ "=B1" true,
    .setCell "T" ⟨0, 1⟩ "net" true]

end Session

end Spreadsheet
