import Mathlib
import Spreadsheet.Text.Blank

namespace Spreadsheet

theorem forall_of_all {cs : List Char} {P : Char → Prop} [DecidablePred P]
    (checked : cs.all (P ·) = true) : ∀ c ∈ cs, P c := by
  simpa using checked

theorem forall_head_of_all {cs : List Char} {P : Char → Prop} [DecidablePred P]
    (checked : cs.head?.all (P ·) = true) : ∀ c ∈ cs.head?, P c := by
  intro c mem
  rw [Option.mem_def.1 mem] at checked
  exact of_decide_eq_true checked

theorem Text.solid_of_visible {c : Char} (low : 0x20 < c.toNat) (high : c.toNat < 0x7f) :
    isBlank c = false := by
  simp only [isBlank, inRuns, blankRuns, List.any_cons, List.any_nil, Bool.or_eq_false_iff,
    Bool.and_eq_false_iff, decide_eq_false_iff_not, Nat.not_le, and_true]
  omega

theorem toNat_of_isDigit {c : Char} (h : c.isDigit = true) : 48 ≤ c.toNat ∧ c.toNat ≤ 57 := by
  simpa [Char.isDigit, UInt32.le_iff_toNat_le] using h

theorem toNat_of_isAlpha {c : Char} (h : c.isAlpha = true) :
    65 ≤ c.toNat ∧ c.toNat ≤ 90 ∨ 97 ≤ c.toNat ∧ c.toNat ≤ 122 := by
  simpa [Char.isAlpha, Char.isUpper, Char.isLower, UInt32.le_iff_toNat_le] using h

theorem isAlpha_eq_false_of_isDigit {c : Char} (h : c.isDigit = true) : c.isAlpha = false := by
  have digit := toNat_of_isDigit h
  cases alpha : c.isAlpha with
  | false => rfl
  | true =>
      have letter := toNat_of_isAlpha alpha
      omega

theorem Text.solid_of_isAlphanum {c : Char} (h : c.isAlphanum = true) : isBlank c = false := by
  rcases Bool.or_eq_true_iff.1 h with alpha | digit
  · have := toNat_of_isAlpha alpha
    exact solid_of_visible (by omega) (by omega)
  · have := toNat_of_isDigit digit
    exact solid_of_visible (by omega) (by omega)

theorem takeWhile_append_stop {p : Char → Bool} {cs rest : List Char} (all : ∀ c ∈ cs, p c = true)
    (stop : ∀ c ∈ rest.head?, p c = false) : (cs ++ rest).takeWhile p = cs := by
  rw [List.takeWhile_append_of_pos all]
  cases rest with
  | nil => simp
  | cons c rest => simp [stop c rfl]

theorem dropWhile_append_stop {p : Char → Bool} {cs rest : List Char} (all : ∀ c ∈ cs, p c = true)
    (stop : ∀ c ∈ rest.head?, p c = false) : (cs ++ rest).dropWhile p = rest := by
  rw [List.dropWhile_append_of_pos all]
  cases rest with
  | nil => rfl
  | cons c rest => simp [stop c rfl]

end Spreadsheet
