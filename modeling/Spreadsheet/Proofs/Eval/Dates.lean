import Spreadsheet.Proofs.Calendar.Serial
import Spreadsheet.Proofs.Eval.Tables

namespace Spreadsheet

namespace FormulaValue

/-- The number nearest to an integer, which is the integer itself up to 53 bits. -/
def integer (n : Int) : FormulaValue := .number (Binary64.ofInt n)

theorem toNumber_integer (n : Int) : (integer n).toNumber = .ok (Binary64.ofInt n) := rfl

theorem errorCode?_integer (n : Int) : (integer n).errorCode? = none := rfl

theorem integer_injective {m n : Int} (small : m.natAbs ≤ 2 ^ 52) (small' : n.natAbs ≤ 2 ^ 52)
    (same : integer m = integer n) : m = n := by
  injection same with same
  have same : Binary64.ofInt m = Binary64.ofInt n := CellValue.number.inj same
  have whole := congrArg Binary64.truncate64 same
  rwa [Binary64.truncate64_ofInt (by omega), Binary64.truncate64_ofInt (by omega)] at whole

theorem countAnswer_ok {n : Nat} (small : n ≤ 2 ^ 53) : countAnswer (.ok n) = integer n := by
  have same : Binary64.ofInt n = Binary64.ofNat n := if_neg (by omega)
  rw [countAnswer, ofAnswer, Nat.min_eq_left, integer, same]
  exact Nat.le_trans small (by decide)

end FormulaValue

open FormulaValue (integer toNumber_integer errorCode?_integer)

namespace Builtin
open Serial (Dated number)

variable {d : Date} {s : Int}

theorem dateOf_integer (low : 0 ≤ s) (high : s ≤ Serial.last) :
    Serial.dateOf (integer s) = Serial.toDate s := by
  have latest : Serial.last = 2958465 := rfl
  rw [Serial.dateOf, toNumber_integer, ok_bind, Binary64.truncate64_ofInt (by omega)]

theorem call_of_toDate (low : 0 ≤ s) (high : s ≤ Serial.last) (found : Serial.toDate s = .ok d)
    (few : d.month ≤ 12) (short : d.day ≤ 31) :
    year.call [integer s] = some (integer d.year) ∧ month.call [integer s] = some (integer d.month) ∧
      day.call [integer s] = some (integer d.day) := by
  have alone : ∀ v ∈ [integer s], v.errorCode? = none := by
    simpa using errorCode?_integer s
  have dated : Serial.dateOf (integer s) = .ok d := (dateOf_integer low high).trans found
  refine ⟨?_, ?_, ?_⟩
  · rw [call_of_scalars rfl alone, run?, dated]
    rfl
  · rw [call_of_scalars rfl alone, run?, dated]
    exact congrArg some (FormulaValue.countAnswer_ok (few.trans (by decide)))
  · rw [call_of_scalars rfl alone, run?, dated]
    exact congrArg some (FormulaValue.countAnswer_ok (short.trans (by decide)))

theorem call_of_dated (dated : Dated d) :
    year.call [integer (number d)] = some (integer d.year) ∧
      month.call [integer (number d)] = some (integer d.month) ∧
      day.call [integer (number d)] = some (integer d.day) := by
  obtain ⟨positive, within⟩ := dated.number_bounds
  exact call_of_toDate (by omega) within dated.toDate_number dated.month_le
    (dated.day_le.trans (Serial.monthLength_le _ _))

theorem ofDate_integer {y : Int} (low : 1900 ≤ y) (high : y ≤ 9999) (m : Int) (v : FormulaValue) :
    Serial.ofDate (integer y) (integer m) v = v.toNumber.bind fun x =>
      Serial.ofParts y (Binary64.saturate (Binary64.truncate64 (Binary64.ofInt m) - 1))
        (Binary64.truncate64 x) := by
  have whole : Binary64.truncate64 (Binary64.ofInt y) = y := Binary64.truncate64_ofInt (by omega)
  rw [Serial.ofDate, toNumber_integer, toNumber_integer, ok_bind, ok_bind, whole]
  cases v.toNumber with
  | error code => rfl
  | ok x =>
      rw [ok_bind]
      dsimp only
      rw [if_neg (by omega), if_neg (by omega)]
      rfl

theorem far_month {m : Int} (far : 2 ^ 52 ≤ m.natAbs) :
    2 ^ 51 ≤ (Binary64.saturate (Binary64.truncate64 (Binary64.ofInt m) - 1)).natAbs := by
  have whole := Binary64.le_natAbs_truncate64_ofInt far
  exact Binary64.le_natAbs_saturate (by omega) (by decide)

theorem date_of_parts {y m e n : Int} (low : 1900 ≤ y) (high : y ≤ 9999) (few : m.natAbs ≤ 2 ^ 52)
    (short : e.natAbs ≤ 2 ^ 52) (counted : Serial.ofParts y (m - 1) e = .ok n) :
    date.call [integer y, integer m, integer e] = some (integer n) := by
  rw [call_of_scalars rfl (by simp [errorCode?_integer]), run?, ofDate_integer low high, toNumber_integer,
    Binary64.truncate64_ofInt (by omega), Binary64.saturate_of_bounds (by omega) (by omega)]
  show some (FormulaValue.integerAnswer (Serial.ofParts y (m - 1) _)) = _
  rw [Binary64.truncate64_ofInt (by omega), counted]
  rfl

theorem date_of_dated (dated : Dated d) :
    date.call [integer d.year, integer d.month, integer d.day] = some (integer (number d)) := by
  have few := dated.month_le
  have short := dated.day_le.trans (Serial.monthLength_le _ _)
  have low := dated.year_ge
  exact date_of_parts low dated.year_le (by omega) (by omega)
    (Serial.ofParts_dated dated (by omega) dated.year_le rfl)

theorem ofDate_twelve {y : Int} (low : 1900 ≤ y) (high : y ≤ 9998) (m : Int) (v : FormulaValue) :
    Serial.ofDate (integer y) (integer (m + 12)) v = Serial.ofDate (integer (y + 1)) (integer m) v := by
  rw [ofDate_integer low (by omega), ofDate_integer (by omega) (by omega)]
  congr 1
  funext x
  by_cases near : m.natAbs ≤ 2 ^ 52 + 12
  · have before : m + 12 - 1 = m - 1 + 12 := by omega
    rw [Binary64.truncate64_ofInt (by omega), Binary64.truncate64_ofInt (by omega),
      Binary64.saturate_of_bounds (by omega) (by omega),
      Binary64.saturate_of_bounds (by omega) (by omega), before]
    exact Serial.ofParts_twelve (by omega) (by omega) _ _
  · rw [Serial.ofParts_far (by omega) (by omega) (far_month (by omega)),
      Serial.ofParts_far (by omega) (by omega) (far_month (by omega))]

theorem edate_of_dated (dated : Dated d) {n : Int}
    (low : 1900 * 12 ≤ d.year * 12 + (d.month - 1) + n)
    (high : d.year * 12 + (d.month - 1) + n < 10000 * 12) :
    edate.call [integer (number d), integer n] = some (integer (number (Serial.later d n))) := by
  have year_ge := dated.year_ge
  have year_le := dated.year_le
  have few := dated.month_le
  obtain ⟨positive, within⟩ := dated.number_bounds
  have start : Serial.dateOf (integer (number d)) = .ok d :=
    (dateOf_integer (by omega) within).trans dated.toDate_number
  rw [call_of_scalars rfl (by simp [errorCode?_integer]), run?,
    Serial.monthsLater_dated start dated (toNumber_integer n) (Binary64.truncate64_ofInt (by omega)) low high]
  rfl

end Builtin

open Builtin (date year month day edate)

/-- Serials and dates are in one-to-one correspondence. Serial 0 is taken apart and put together again
like the others, though its day is none of its month, and February 1900 has 29 days. Months that run
past the end of a year belong to the next one, whatever the day is, errors included; an integer that
no number is equal to stands for the number nearest to it. -/
theorem serial_codec :
    (∀ s : Int, 0 ≤ s → s ≤ 2958465 →
      (do date.call [← year.call [integer s], ← month.call [integer s], ← day.call [integer s]]) =
        some (integer s)) ∧
    (∀ (y : Int) (m d : Nat), 1900 ≤ y → y ≤ 9999 → 1 ≤ m → m ≤ 12 → 1 ≤ d →
      d ≤ Serial.monthLength y m →
      (do year.call [← date.call [integer y, integer m, integer d]]) = some (integer y) ∧
      (do month.call [← date.call [integer y, integer m, integer d]]) = some (integer m) ∧
      (do day.call [← date.call [integer y, integer m, integer d]]) = some (integer d)) ∧
    ∀ (y m : Int) (v : FormulaValue), 1900 ≤ y → y ≤ 9998 →
      date.call [integer y, integer (m + 12), v] = date.call [integer (y + 1), integer m, v] := by
  refine ⟨fun s low high => ?_, fun y m d year_ge year_le month_pos month_le day_pos day_le => ?_,
    fun y m v low high => ?_⟩
  · by_cases zero : s = 0
    · subst zero
      obtain ⟨y, m, d⟩ := Builtin.call_of_toDate (Int.le_refl 0) (by decide) rfl (by decide) (by decide)
      rw [y, m, d]
      exact Builtin.date_of_parts (by decide) (by decide) (by decide) (by decide) (by decide +kernel)
    · obtain ⟨d, _, dated, rfl⟩ := Serial.toDate_spec (show 1 ≤ s by omega) high
      obtain ⟨y, m, d⟩ := Builtin.call_of_dated dated
      rw [y, m, d]
      exact Builtin.date_of_dated dated
  · have dated : Serial.Dated ⟨y, m, d⟩ := ⟨year_ge, year_le, month_pos, month_le, day_pos, day_le⟩
    rw [Builtin.date_of_dated dated]
    exact Builtin.call_of_dated dated
  · have same := Builtin.ofDate_twelve low high m v
    rw [Builtin.call, Builtin.call, Builtin.run?, Builtin.run?, same]
    rfl

theorem extraDay_codec :
    (do date.call [← year.call [integer 60], ← month.call [integer 60], ← day.call [integer 60]]) =
      some (integer 60) ∧
    (do day.call [← date.call [integer 1900, integer 2, integer 29]]) = some (integer 29) ∧
    date.call [integer 2023, integer (-1 + 12), integer (-30)] =
      date.call [integer (2023 + 1), integer (-1), integer (-30)] := by
  obtain ⟨serials, dates, months⟩ := serial_codec
  have extra := dates 1900 2 29 (by decide) (by decide) (by decide) (by decide) (by decide) (by decide)
  exact ⟨serials 60 (by decide) (by decide), extra.2.2, months 2023 (-1) _ (by decide) (by decide)⟩

/-- Every serial from 1 on is that of a day. A number of months that leads to no year before 1900 and
none after 9999 moves it to the same day of the target month, or to the last day of that month if it is
too short. -/
theorem edate_moves_by_months {s : Int} (positive : 1 ≤ s) (within : s ≤ 2958465) :
    ∃ d : Date, Serial.Dated d ∧
      (year.call [integer s] = some (integer d.year) ∧ month.call [integer s] = some (integer d.month) ∧
        day.call [integer s] = some (integer d.day)) ∧
      (∀ n target : Int, target = 12 * d.year + (d.month - 1) + n → 12 * 1900 ≤ target →
        target ≤ 12 * 9999 + 11 →
        ∃ t : Int, edate.call [integer s, integer n] = some (integer t) ∧
          year.call [integer t] = some (integer (target / 12)) ∧
          month.call [integer t] = some (integer (target % 12 + 1)) ∧
          day.call [integer t] = some (integer
            (min d.day (Serial.monthLength (target / 12) ((target % 12).toNat + 1)) : Nat))) ∧
      edate.call [integer s, integer 0] = some (integer s) := by
  obtain ⟨d, _, dated, rfl⟩ := Serial.toDate_spec positive within
  refine ⟨d, dated, Builtin.call_of_dated dated, fun n target total low high => ?_, ?_⟩
  · subst total
    have low' : 1900 * 12 ≤ d.year * 12 + (d.month - 1) + n := by omega
    have high' : d.year * 12 + (d.month - 1) + n < 10000 * 12 := by omega
    obtain ⟨y, m, e⟩ := Builtin.call_of_dated (Serial.dated_later dated low' high')
    refine ⟨_, Builtin.edate_of_dated dated low' high', ?_, ?_, ?_⟩
    · rw [y, Int.mul_comm 12]
      rfl
    · rw [m, Int.mul_comm 12, Serial.later]
      dsimp only
      congr 2
      omega
    · rw [e, Int.mul_comm 12]
      rfl
  · have low := dated.year_ge
    have high := dated.year_le
    have first := dated.month_pos
    have few := dated.month_le
    rw [Builtin.edate_of_dated dated (by omega) (by omega), Serial.later_zero dated]

theorem edate_to_extraDay :
    ∃ t, edate.call [integer 31, integer 1] = some (integer t) ∧
      month.call [integer t] = some (integer 2) ∧ day.call [integer t] = some (integer 29) := by
  obtain ⟨d, dated, ⟨years, months, days⟩, moves, _⟩ :=
    edate_moves_by_months (show (1 : Int) ≤ 31 by decide) (by decide)
  have january : Serial.Dated ⟨1900, 1, 31⟩ := by constructor <;> decide
  obtain ⟨years', months', days'⟩ := Builtin.call_of_dated january
  have serial : Serial.number ⟨1900, 1, 31⟩ = 31 := by decide
  rw [serial] at years' months' days'
  have low := dated.year_ge
  have high := dated.year_le
  have few := dated.month_le
  have short := dated.day_le.trans (Serial.monthLength_le _ _)
  have year_eq := FormulaValue.integer_injective (by omega) (by decide) (Option.some.inj (years.symm.trans years'))
  have month_eq := FormulaValue.integer_injective (by omega) (by decide) (Option.some.inj (months.symm.trans months'))
  have day_eq := FormulaValue.integer_injective (by omega) (by decide) (Option.some.inj (days.symm.trans days'))
  obtain ⟨t, moved, _, onto, last⟩ := moves 1 22801 (by dsimp only at *; omega) (by decide) (by decide)
  refine ⟨t, moved, onto, ?_⟩
  rw [last]
  have february : Serial.monthLength (22801 / 12) ((22801 % 12 : Int).toNat + 1) = 29 := by decide
  rw [february]
  dsimp only at day_eq
  rw [show d.day = 31 by omega]
  rfl

end Spreadsheet
