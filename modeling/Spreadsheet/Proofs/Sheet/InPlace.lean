import Spreadsheet.Proofs.Data.InPlace
import Spreadsheet.Proofs.Sheet.Sound
import Spreadsheet.Sheet.InPlace

namespace Spreadsheet
open InPlace

namespace Matrix
variable {m m' : Matrix}

theorem on_setRaw (m : Matrix) (p : Position) (raw : String) :
    (setRawInPlace p raw).on m = allOrNothing m ((m.setRaw p raw).map fun m => (m, ())) := by
  unfold setRawInPlace setRaw
  rw [on_get_bind, on_bind, on_demand]
  cases m.limits.check p <;> rfl

theorem on_shift (m : Matrix) (shift : CellStore → CellStore) (axis : Axis) (n : Nat) {wanted : Prop}
    [Decidable wanted] :
    (modify (fun m : Matrix => { m with cells := shift m.cells }) >>= fun _ =>
      if wanted then modify (·.withSize axis n) else pure PUnit.unit : InPlace Matrix PUnit).on m =
    (.ok ⟨⟩, if wanted then ({ m with cells := shift m.cells } : Matrix).withSize axis n
      else { m with cells := shift m.cells }) := by
  rw [on_modify_bind]
  split <;> rfl

theorem on_insertLine (m : Matrix) (axis : Axis) (k : Nat) :
    (insertLineInPlace axis k).on m = allOrNothing m ((m.insertLine axis k).map fun m => (m, ())) := by
  unfold insertLineInPlace insertLine
  rw [on_get_bind, on_bind, on_demand]
  cases m.limits.checkLine axis k with
  | error fault => rfl
  | ok u =>
      cases m.cells.bounds with
      | none => exact on_shift m (·.insertLine axis k) axis _
      | some b =>
          dsimp only [Except.bind, Except.map]
          by_cases behind : k ≤ b.last axis
          · rw [if_pos behind, if_pos behind, on_bind, on_demand]
            cases m.limits.checkLine axis (b.last axis + 1) with
            | error fault => rfl
            | ok u => exact on_shift m (·.insertLine axis k) axis _
          · rw [if_neg behind, if_neg behind]
            exact on_shift m (·.insertLine axis k) axis _

theorem on_deleteLine (m : Matrix) (axis : Axis) (k : Nat) :
    (deleteLineInPlace axis k).on m = allOrNothing m ((m.deleteLine axis k).map fun m => (m, ())) := by
  unfold deleteLineInPlace deleteLine
  rw [on_get_bind, on_bind, on_demand]
  cases m.limits.checkLine axis k with
  | error fault => rfl
  | ok u => exact on_shift m (·.deleteLine axis k) axis _

theorem on_editLine (m : Matrix) (edit : LineEdit) :
    (editLineInPlace edit).on m = allOrNothing m ((m.editLine edit).map fun m => (m, ())) := by
  cases edit with
  | insert axis k => exact on_insertLine m axis k
  | delete axis k => exact on_deleteLine m axis k

/-- Texts may be refused after some were stored. Where all are accepted, all are stored. -/
theorem on_setTexts {texts : List (Position × String)} (ok : m.setTexts texts = .ok m') :
    (setTextsInPlace texts).on m = (.ok (), m') := by
  induction texts generalizing m with
  | nil =>
      cases ok
      rfl
  | cons edit texts ih =>
      obtain ⟨p, raw⟩ := edit
      obtain ⟨m₁, stored, rest⟩ := bind_eq_ok.1 ok
      have accepted : m.setRaw p raw = .ok m₁ := stored
      have first := on_setRaw m p raw
      rw [accepted] at first
      show (setRawInPlace p raw >>= fun _ => setTextsInPlace texts).on m = _
      rw [on_bind_ok first]
      exact ih rest

theorem on_setDimensions (m : Matrix) (rows columns : Nat) :
    (setDimensionsInPlace rows columns).on m =
      allOrNothing m ((m.setDimensions rows columns).map fun m => (m, ())) := by
  unfold setDimensionsInPlace setDimensions
  rw [on_get_bind]
  by_cases manyRows : m.limits.rows < rows
  · rw [if_pos manyRows, if_pos manyRows]
    rfl
  by_cases manyColumns : m.limits.columns < columns
  · rw [if_neg manyRows, if_neg manyRows, if_pos manyColumns, if_pos manyColumns]
    rfl
  rw [if_neg manyRows, if_neg manyRows, if_neg manyColumns, if_neg manyColumns]
  cases m.cells.bounds with
  | none => rfl
  | some b =>
      by_cases uncovered : rows ≤ b.maxRow ∨ columns ≤ b.maxColumn
      · dsimp only
        rw [if_pos uncovered, if_pos uncovered]
        rfl
      · dsimp only
        rw [if_neg uncovered, if_neg uncovered]
        rfl

theorem on_setDimensions_ok {rows columns : Nat} (ok : m.setDimensions rows columns = .ok m') :
    (setDimensionsInPlace rows columns).on m = (.ok (), m') := by
  rw [on_setDimensions, ok]
  rfl

end Matrix

namespace Sheet
variable {s s' : Sheet}

theorem on_onMatrix {α : Type} {work : InPlace Matrix α} {m : Matrix} {outcome : Except GridError α}
    (h : work.on s.matrix = (outcome, m)) : (onMatrix work).on s = (outcome, { s with matrix := m }) := by
  unfold onMatrix
  rw [on_onPart, h]

theorem on_writeCell {p : Position} (inside : s.limits.Contains p) (raw : String) :
    (writeCellInPlace p raw).on s = (.ok (), s.writeCell p raw) := by
  have stored := Matrix.on_setRaw s.matrix p raw
  have checked : s.matrix.setRaw p raw = .ok (s.matrix.put p raw) :=
    map_eq_ok.2 ⟨(), Matrix.check_iff.2 inside, rfl⟩
  rw [checked] at stored
  unfold writeCellInPlace writeCell
  rw [on_bind_ok (on_onMatrix stored), on_modify_bind]
  split <;> rfl

theorem on_writeAll {edits : List (Position × String)} (inside : ∀ p ∈ edits.map (·.1), s.limits.Contains p) :
    (edits.forM fun (p, raw) => writeCellInPlace p raw).on s =
      (.ok (), edits.foldl (fun s edit => s.writeCell edit.1 edit.2) s) := by
  induction edits generalizing s with
  | nil => rfl
  | cons edit edits ih =>
      obtain ⟨p, raw⟩ := edit
      rw [List.map_cons, List.forall_mem_cons] at inside
      have kept : (s.writeCell p raw).limits = s.limits :=
        (congrArg Matrix.limits (reread_writeCell s p raw)).trans (s.matrix.reread.put_frame p raw).1
      show (writeCellInPlace p raw >>= fun _ => edits.forM fun (p, raw) => writeCellInPlace p raw).on s = _
      rw [on_bind_ok (on_writeCell inside.1 raw)]
      apply ih
      rw [kept]
      exact inside.2

theorem on_checks (limits : Limits) (ps : List Position) (s : Sheet) :
    (ps.forM fun p => (demand (limits.check p) : InPlace Sheet Unit)).on s = (ps.forM limits.check, s) := by
  induction ps with
  | nil => rfl
  | cons p ps ih =>
      show (demand (limits.check p) >>= fun _ => ps.forM fun p => demand (limits.check p)).on s =
        (limits.check p >>= fun _ => ps.forM limits.check, s)
      rw [on_bind, on_demand]
      cases limits.check p with
      | error fault => rfl
      | ok u => exact ih

theorem on_write (s : Sheet) (edits : List (Position × String)) :
    (writeInPlace edits).on s = allOrNothing s (s.write edits) := by
  have checks := on_checks s.limits (edits.map (·.1)) s
  unfold writeInPlace write
  rw [on_get_bind, on_bind, checks]
  cases checked : (edits.map (·.1)).forM s.limits.check with
  | error fault => rfl
  | ok u =>
      show ((edits.forM fun (p, raw) => writeCellInPlace p raw) >>= _).on s = _
      rw [on_bind_ok (on_writeAll (contains_of_forM checked))]
      rfl

theorem on_editLine (s : Sheet) (edit : LineEdit) :
    (editLineInPlace edit).on s = allOrNothing s ((s.editLine edit).map fun s => (s, ())) := by
  have edited := on_onMatrix (Matrix.on_editLine s.matrix edit)
  unfold editLineInPlace editLine
  rw [on_get_bind, on_bind, edited]
  cases s.matrix.editLine edit <;> rfl

theorem on_restore {step : Step} (ok : s.restore step = .ok s') :
    (restoreInPlace step).on s = (.ok (), s') := by
  obtain ⟨m, restored, rfl⟩ := map_eq_ok.1 ok
  unfold restoreMatrix at restored
  unfold restoreInPlace
  cases change : step.change with
  | cells texts =>
      rw [change] at restored
      obtain ⟨m₁, stored, sized⟩ := bind_eq_ok.1 restored
      dsimp only
      rw [on_bind_ok (on_onMatrix (Matrix.on_setTexts stored)),
        on_bind_ok (on_onMatrix (Matrix.on_setDimensions_ok sized))]
      rfl
  | matrix snapshot =>
      rw [change] at restored
      obtain ⟨m₁, stored, sized⟩ := bind_eq_ok.1 restored
      have cleared := on_onMatrix (on_modify Matrix.clear s.matrix)
      have texts := on_onMatrix (s := { s with matrix := s.matrix.clear }) (Matrix.on_setTexts stored)
      dsimp only
      rw [on_bind_ok cleared, on_bind_ok texts,
        on_bind_ok (on_onMatrix (Matrix.on_setDimensions_ok sized))]
      rfl

end Sheet
end Spreadsheet
