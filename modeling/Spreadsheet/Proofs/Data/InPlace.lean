import Spreadsheet.Data.InPlace

namespace Spreadsheet.InPlace
variable {σ τ α β : Type} {s s' : σ}

@[simp] theorem on_modify (f : σ → σ) (s : σ) : (modify f : InPlace σ PUnit).on s = (.ok ⟨⟩, f s) := rfl

@[simp] theorem on_demand (x : Except GridError α) (s : σ) : (demand x : InPlace σ α).on s = (x, s) := rfl

theorem on_bind (work : InPlace σ α) (next : α → InPlace σ β) (s : σ) :
    (work >>= next).on s = match work.on s with
      | (.ok a, s') => (next a).on s'
      | (.error fault, s') => (.error fault, s') := by
  unfold on ExceptT.run StateT.run
  simp only [bind, ExceptT.bind, ExceptT.mk, StateT.bind]
  cases work s with
  | mk outcome s' => cases outcome <;> rfl

theorem on_bind_ok {work : InPlace σ α} {a : α} (h : work.on s = (.ok a, s')) (next : α → InPlace σ β) :
    (work >>= next).on s = (next a).on s' := by
  rw [on_bind, h]

@[simp] theorem on_get_bind (next : σ → InPlace σ β) (s : σ) : (get >>= next).on s = (next s).on s := rfl

@[simp] theorem on_modify_bind (f : σ → σ) (next : PUnit → InPlace σ β) (s : σ) :
    (modify f >>= next).on s = (next ⟨⟩).on (f s) := rfl

theorem on_onPart (part : σ → τ) (put : σ → τ → σ) (work : InPlace τ α) (s : σ) :
    (work.onPart part put).on s = ((work.on (part s)).1, put s (work.on (part s)).2) := rfl

def allOrNothing (s : σ) : Except GridError (σ × α) → Except GridError α × σ
  | .ok (s', a) => (.ok a, s')
  | .error fault => (.error fault, s)

end Spreadsheet.InPlace

namespace Spreadsheet.Execution
variable {σ τ α β : Type} {s : σ}

theorem on_bind (work : Execution σ α) (next : α → Execution σ β) (s : σ) :
    (work >>= next).on s = match work.on s with
      | some (.ok a, s') => (next a).on s'
      | some (.error fault, s') => some (.error fault, s')
      | none => none := by
  unfold on ExceptT.run StateT.run
  simp only [bind, ExceptT.bind, ExceptT.mk, StateT.bind]
  cases work s with
  | none => rfl
  | some r =>
      obtain ⟨outcome, s'⟩ := r
      cases outcome <;> rfl

theorem on_get_bind (next : σ → Execution σ β) (s : σ) : (get >>= next).on s = (next s).on s := rfl

theorem on_demand_ok_bind (a : α) (next : α → Execution σ β) (s : σ) :
    (demand (.ofExcept (.ok a)) >>= next).on s = (next a).on s := rfl

theorem on_ofInPlace_bind (work : InPlace σ α) (next : α → Execution σ β) (s : σ) :
    (ofInPlace work >>= next).on s = match work.on s with
      | (.ok a, s') => (next a).on s'
      | (.error fault, s') => some (.error fault, s') := by
  rw [on_bind]
  show (match some (work.on s) with | some (.ok a, s') => _ | some (.error fault, s') => _ | none => _) = _
  cases work.on s with
  | mk outcome s' => cases outcome <;> rfl

theorem on_tryCatch (work : Execution σ α) (handle : GridError → Execution σ α) (s : σ) :
    (tryCatch work handle).on s = match work.on s with
      | some (.ok a, s') => some (.ok a, s')
      | some (.error fault, s') => (handle fault).on s'
      | none => none := by
  unfold on ExceptT.run StateT.run
  simp only [tryCatch, tryCatchThe, MonadExceptOf.tryCatch, ExceptT.tryCatch, ExceptT.mk, bind, StateT.bind]
  cases work s with
  | none => rfl
  | some r =>
      obtain ⟨outcome, s'⟩ := r
      cases outcome <;> rfl

/-- What work comes to that is done or refused as a whole, or crashes. -/
def allOrNothing (s : σ) : Attempt GridError (σ × α) → Option (Except GridError α × σ)
  | .ok (s', a) => some (.ok a, s')
  | .error (.fault fault) => some (.error fault, s)
  | .error .crash => none

theorem demand_bind (x : Attempt GridError α) {next : α → Execution σ β} {y : α → Attempt GridError (σ × β)}
    (h : ∀ a, x = .ok a → (next a).on s = allOrNothing s (y a)) :
    (demand x >>= next).on s = allOrNothing s (x >>= y) := by
  rw [on_bind]
  cases x with
  | error halt => cases halt <;> rfl
  | ok a => exact h a rfl

theorem bind_return {work : Execution σ α} {x : Attempt GridError (σ × α)} (h : work.on s = allOrNothing s x)
    (f : α → β) : (work >>= fun a => pure (f a)).on s = allOrNothing s (x.map fun r => (r.1, f r.2)) := by
  rw [on_bind, h]
  cases x with
  | error halt => cases halt <;> rfl
  | ok r => rfl

theorem unit_bind_return {work : Execution σ Unit} {x : Attempt GridError σ}
    (h : work.on s = allOrNothing s (x.map fun s => (s, ()))) (b : β) :
    (work >>= fun _ => pure b).on s = allOrNothing s (x.map fun s => (s, b)) := by
  rw [bind_return h fun _ => b]
  cases x <;> rfl

end Spreadsheet.Execution
