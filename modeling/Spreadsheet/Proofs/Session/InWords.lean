import Spreadsheet.Proofs.Session.Regularity
import Spreadsheet.Proofs.Sheet.InWords
import Spreadsheet.Proofs.Sheet.Values
import Spreadsheet.Session.InWords

namespace Spreadsheet.Session

def Outgrows (s : Session) (name : String) (edit : LineEdit) : Prop :=
  ∃ sheet, s.sheet name = .ok sheet ∧ (rowWordBound ≤ edit.index + 1 ∨ sheet.Outgrows edit)

section
variable {options : Options} {s : Session}

theorem run_adapt {α : Type} {work : InWords α} {x : Except GridError α} (h : work.run = some x) :
    (work.adapt Halt.fault).run = some (Attempt.ofExcept x) := by
  show work.run.map (Except.mapError Halt.fault) = _
  rw [h]
  rfl

theorem Regular.editLineInWords_of_fits (h : s.Regular options)
    (small : ∀ axis, options.limits.along axis < axis.wordBound) {name : String} {edit : LineEdit}
    (fits : ¬ s.Outgrows name edit) :
    (s.editLineInWords name edit).run = some (s.editLine name edit) := by
  refine InWords.run_bind_of_some rfl fun sheet found => ?_
  have found := ofExcept_eq_ok.1 found
  have regular := h.holds.sheet found
  rw [← regular.limits_eq] at small
  have described : edit.describeInWords = some edit.describe :=
    LineEdit.describeInWords_of_lt (Nat.not_le.1 fun full => fits ⟨sheet, found, .inl full⟩)
  have edited := (Sheet.editLineInWords_run regular.toSound regular.storable.toCovered small edit).2
    fun out => fits ⟨sheet, found, .inr out⟩
  rw [InWords.word_bind described]
  refine InWords.run_bind_of_some (run_adapt edited) fun sheet' moved => ?_
  have wired := (Sheet.editLine_ok regular.toSound (ofExcept_eq_ok.1 moved)).1.toWired
  refine InWords.run_bind_of_some ?_ fun r _ => rfl
  show (sheet'.recalcAllInWords false).map Attempt.ofOption = _
  rw [wired.recalcAllInWords_eq]
  rfl

theorem Regular.editLineInWords_of_outgrows (h : s.Regular options)
    (small : ∀ axis, options.limits.along axis < axis.wordBound) {name : String} {edit : LineEdit}
    (out : s.Outgrows name edit) : (s.editLineInWords name edit).run = none := by
  obtain ⟨sheet, found, out⟩ := out
  have regular := h.holds.sheet found
  rw [← regular.limits_eq] at small
  have looked : (ExceptT.mk (some (Attempt.ofExcept (s.sheet name))) :
      ExceptT (Halt GridError) Option Sheet).run = some (.ok sheet) :=
    congrArg some (ofExcept_eq_ok.2 found)
  unfold editLineInWords
  rw [InWords.run_bind_ok looked]
  by_cases full : rowWordBound ≤ edit.index + 1
  · exact InWords.word_bind_none (LineEdit.describeInWords_of_le full) _
  · have edited := (Sheet.editLineInWords_run regular.toSound regular.storable.toCovered small edit).1
      (out.resolve_left full)
    rw [InWords.word_bind (LineEdit.describeInWords_of_lt (Nat.not_le.1 full)), ExceptT.run_bind]
    show ((sheet.editLineInWords edit).run.map (Except.mapError Halt.fault) >>= _) = none
    rw [edited]
    rfl

/-- Whatever operations led to a session whose limits are words, a line edit has no answer exactly
where it leaves the words. Everywhere else it is carried out or refused as without bounds. -/
theorem Reachable.editLine_overflows_iff (h : Reachable options s)
    (small : ∀ axis, options.limits.along axis < axis.wordBound) (name : String) (edit : LineEdit) :
    ((s.editLineInWords name edit).run = none ↔ s.Outgrows name edit) ∧
      (¬ s.Outgrows name edit →
        (s.editLineInWords name edit).run = some (s.editLine name edit)) := by
  refine ⟨⟨fun no => ?_, h.regular.editLineInWords_of_outgrows small⟩,
    h.regular.editLineInWords_of_fits small⟩
  by_contra fits
  rw [h.regular.editLineInWords_of_fits small fits] at no
  cases no

end

def widest : Options := { limits := ⟨4294967295, 65535⟩ }

theorem widest_small (axis : Axis) : widest.limits.along axis < axis.wordBound := by
  cases axis <;> decide

def swept : Session := reached widest
  [.addMatrix "M", .setCell "M" ⟨4294967294, 0⟩ "x" false, .setCell "M" ⟨4294967294, 0⟩ "" false]

theorem swept_shortened : ¬ swept.Outgrows "M" (.delete .row 0) ∧
    (swept.editLineInWords "M" (.delete .row 0)).run = some (swept.editLine "M" (.delete .row 0)) := by
  have fits : ¬ swept.Outgrows "M" (.delete .row 0) := by
    rintro ⟨sheet, _, full | out⟩
    · exact absurd full (by decide)
    · exact out
  exact ⟨fits, ((reachable_reached widest _).editLine_overflows_iff widest_small "M" _).2 fits⟩

theorem swept_overflows : Reachable widest swept ∧
    (∀ axis, widest.limits.along axis < axis.wordBound) ∧
    (swept.editLineInWords "M" (.insert .row 0)).run = none ∧
    4294967295 < rowWordBound ∧
    (swept.editLineInWords "M" (.insert .row 4294967295)).run = none := by
  refine ⟨reachable_reached widest _, widest_small, ?_, by decide, ?_⟩
  · cbv
  · cbv

end Spreadsheet.Session
