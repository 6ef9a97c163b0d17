import Spreadsheet.Proofs.Data.Outcome
import Spreadsheet.Session.Basic

namespace Spreadsheet

namespace History

structure Bounded (h : History) (max : Nat) : Prop where
  max_eq : h.max = max
  undos : h.undos.length ≤ max
  redos : h.redos.length ≤ max

section
variable {h : History} {max : Nat}

theorem length_pushBounded (max : Nat) (step : Step) (steps : List Step) :
    (pushBounded max step steps).length ≤ max := List.length_take_le _ _

theorem Bounded.push (b : h.Bounded max) (step : Step) : (h.push step).Bounded max := by
  refine ⟨b.max_eq, ?_, Nat.zero_le _⟩
  rw [← b.max_eq]
  exact length_pushBounded _ _ _

theorem Bounded.pushRedo (b : h.Bounded max) (step : Step) : (h.pushRedo step).Bounded max := by
  refine ⟨b.max_eq, b.undos, ?_⟩
  rw [← b.max_eq]
  exact length_pushBounded _ _ _

theorem Bounded.pop (b : h.Bounded max) {step : Step} {rest : List Step}
    (undos : h.undos = step :: rest) : { h with undos := rest }.Bounded max := by
  refine ⟨b.max_eq, ?_, b.redos⟩
  have few := b.undos
  rw [undos, List.length_cons] at few
  exact Nat.le_of_succ_le few

theorem Bounded.forget (b : h.Bounded max) (matrix : String) : (h.forget matrix).Bounded max :=
  ⟨b.max_eq, Nat.le_trans (List.length_filter_le _ _) b.undos,
    Nat.le_trans (List.length_filter_le _ _) b.redos⟩

theorem Bounded.clear (b : h.Bounded max) : h.clear.Bounded max :=
  ⟨b.max_eq, Nat.zero_le _, Nat.zero_le _⟩

def turned (h : History) : History := ⟨h.redos, h.undos, h.max⟩

theorem Bounded.turned (b : h.Bounded max) : h.turned.Bounded max := ⟨b.max_eq, b.redos, b.undos⟩

end

end History

namespace Session

def turned (s : Session) : Session := { s with history := s.history.turned }

theorem revert_history (s : Session) (history : History) (step : Step) :
    ({ s with history } : Session).revert step =
      (s.revert step).map fun result => ({ result.1 with history }, result.2) := by
  unfold revert
  show (Attempt.ofExcept (s.sheet step.matrix) >>= _) = _
  cases s.sheet step.matrix with
  | error fault => rfl
  | ok sheet =>
      rw [ofExcept_ok_bind, ofExcept_ok_bind]
      cases sheet.restore step with
      | error fault => rfl
      | ok restored =>
          rw [ofExcept_ok_bind, ofExcept_ok_bind]
          cases restored.recalcAll false <;> rfl

theorem revert_of_restored {s : Session} {step : Step} {sheet restored : Sheet}
    (found : s.sheet step.matrix = .ok sheet) (ok : sheet.restore step = .ok restored) :
    s.revert step = Attempt.ofOption ((restored.recalcAll false).map fun r =>
      (s.replace step.matrix r.1, sheet.inverseOf step)) := by
  unfold revert
  rw [found, ofExcept_ok_bind, ok, ofExcept_ok_bind]
  cases restored.recalcAll false <;> rfl

theorem undo_nil {s : Session} (undos : s.history.undos = []) : s.undo = some (s, false) := by
  unfold undo History.popUndo
  rw [undos]
  rfl

theorem undo_cons {s : Session} {step : Step} {rest : List Step} (undos : s.history.undos = step :: rest) :
    s.undo = match s.revert step with
      | .ok (s', inverse) =>
        some ({ s' with history := { s.history with undos := rest }.pushRedo inverse }, true)
      | .error (.fault _) => some ({ s with history := { s.history with undos := rest } }, false)
      | .error .crash => none := by
  have reverted := revert_history s { s.history with undos := rest } step
  unfold undo History.popUndo
  rw [undos]
  dsimp only [List.head?_cons, List.tail_cons]
  rw [reverted]
  cases s.revert step with
  | ok result => rfl
  | error halt => cases halt <;> rfl

theorem undo_of_revert {s s' : Session} {step inverse : Step} {rest : List Step}
    (undos : s.history.undos = step :: rest) (reverted : s.revert step = .ok (s', inverse)) :
    s.undo = some ({ s' with history := { s.history with undos := rest }.pushRedo inverse }, true) := by
  rw [undo_cons undos, reverted]

theorem undos_undo {s s' : Session} {applied : Bool} (undone : s.undo = some (s', applied)) :
    s'.history.undos = s.history.undos.tail := by
  cases undos : s.history.undos with
  | nil =>
      rw [undo_nil undos] at undone
      cases undone
      rw [undos, List.tail_nil]
  | cons step rest =>
      rw [undo_cons undos] at undone
      split at undone <;> cases undone <;> rfl

/-- Making an edit once more is taking it back with the stacks exchanged. -/
theorem redo_eq (s : Session) : s.redo = s.turned.undo.map fun (t, applied) => (t.turned, applied) := by
  obtain ⟨options, sheets, ⟨undos, redos, max⟩⟩ := s
  cases redos with
  | nil => rfl
  | cons step rest =>
      let bare : Session := { options, sheets }
      have here := revert_history bare ⟨undos, rest, max⟩ step
      have there := revert_history bare ⟨rest, undos, max⟩ step
      unfold redo undo turned History.turned History.popRedo History.popUndo
      dsimp only [List.head?_cons, List.tail_cons]
      rw [here, there]
      cases bare.revert step with
      | ok result => rfl
      | error halt => cases halt <;> rfl

end Session

end Spreadsheet
