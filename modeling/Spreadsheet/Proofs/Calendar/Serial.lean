import Spreadsheet.Calendar.Serial
import Spreadsheet.Proofs.Calendar.Gregorian
import Spreadsheet.Proofs.Data.Outcome
import Spreadsheet.Proofs.Number.Integers

namespace Spreadsheet.Serial
open Gregorian (daysBeforeYear daysBeforeMonth dayNumber)
open Binary64 (saturate_of_bounds)

def monthLength (year : Int) (month : Nat) : Nat :=
  if year = 1900 ∧ month = 2 then 29 else Gregorian.daysInMonth year month

structure Dated (d : Date) : Prop where
  year_ge : 1900 ≤ d.year
  year_le : d.year ≤ 9999
  month_pos : 1 ≤ d.month
  month_le : d.month ≤ 12
  day_pos : 1 ≤ d.day
  day_le : d.day ≤ monthLength d.year d.month

/-- How many days more than have passed are counted in a month. -/
def surplus (year : Int) (month : Nat) : Int := if year = 1900 ∧ month ≤ 2 then 0 else 1

def number (d : Date) : Int := dayNumber d - epoch + surplus d.year d.month

variable {year month day : Int} {d : Date} {s : Int}

theorem epoch_eq : epoch = 693595 := by decide

theorem coversYear_of_bounds (low : 1900 ≤ year) (high : year ≤ 10000) : coversYear year = true := by
  simp only [coversYear, Bool.and_eq_true, decide_eq_true_eq]
  omega

theorem fitsYear_of_bounds (low : 1900 ≤ year) (high : year ≤ 9999) : fitsYear year = true := by
  simp only [fitsYear, Bool.and_eq_true, decide_eq_true_eq]
  exact ⟨Int.le_trans (by decide) low, Int.le_trans high (by decide)⟩

theorem daysInMonth_eq (low : 1900 ≤ year) (high : year ≤ 9999) (month : Nat) :
    daysInMonth year month = some (monthLength year month) := by
  unfold daysInMonth monthLength
  split
  · rfl
  · exact if_pos ⟨coversYear_of_bounds low (by omega), fun _ => coversYear_of_bounds (by omega) (by omega)⟩

theorem Dated.valid_or (dated : Dated d) : d = ⟨1900, 2, 29⟩ ∨ d.Valid := by
  by_cases extra : d = ⟨1900, 2, 29⟩
  · exact .inl extra
  · refine .inr ⟨dated.month_pos, dated.month_le, dated.day_pos, ?_⟩
    have inside := dated.day_le
    unfold monthLength at inside
    split at inside
    · rename_i february
      obtain ⟨year, month, day⟩ := d
      obtain ⟨rfl, rfl⟩ : year = 1900 ∧ month = 2 := february
      have few : day ≠ 29 := fun same => extra (same ▸ rfl)
      have length : Gregorian.daysInMonth 1900 2 = 28 := rfl
      dsimp only at inside ⊢
      omega
    · exact inside

theorem dated_of_valid (valid : d.Valid) (low : 1900 ≤ d.year) (high : d.year ≤ 9999) : Dated d := by
  refine ⟨low, high, valid.month_pos, valid.month_le, valid.day_pos, valid.day_le.trans ?_⟩
  unfold monthLength
  split
  · rename_i february
    rw [february.1, february.2]
    decide
  · exact Nat.le_refl _

theorem early_iff (valid : d.Valid) (low : 1900 ≤ d.year) :
    d.year = 1900 ∧ d.month ≤ 2 ↔ dayNumber d ≤ epoch + 59 := by
  have positive := valid.day_pos
  have inside := valid.bounds.2
  have first := epoch_eq
  unfold dayNumber
  by_cases start : d.year = 1900
  · rw [start] at inside ⊢
    have years : daysBeforeYear 1900 = 693595 := by decide
    have february : daysBeforeMonth 1900 (2 + 1) = 59 := by decide
    rcases Nat.lt_or_ge 2 d.month with later | early
    · have months := Gregorian.daysBeforeMonth_mono 1900 (show 2 + 1 ≤ d.month from later)
      omega
    · have months := Gregorian.daysBeforeMonth_mono 1900 (show d.month + 1 ≤ 2 + 1 by omega)
      omega
  · have years := Gregorian.daysBeforeYear_mono (show 1901 ≤ d.year by omega)
    have second : daysBeforeYear 1901 = 693960 := by decide
    omega

theorem surplus_eq (valid : d.Valid) (low : 1900 ≤ d.year) :
    surplus d.year d.month = if dayNumber d ≤ epoch + 59 then 0 else 1 :=
  if_congr (early_iff valid low) rfl rfl

theorem Dated.number_bounds (dated : Dated d) : 1 ≤ number d ∧ number d ≤ last := by
  have latest : last = 2958465 := rfl
  have first := epoch_eq
  rcases dated.valid_or with rfl | valid
  · have extra : number ⟨1900, 2, 29⟩ = 60 := by decide
    omega
  · obtain ⟨⟨low, high⟩, _⟩ := valid.bounds
    have start := Gregorian.daysBeforeYear_mono dated.year_ge
    have stop := Gregorian.daysBeforeYear_mono (show d.year + 1 ≤ 10000 by have := dated.year_le; omega)
    have start' : daysBeforeYear 1900 = 693595 := by decide
    have stop' : daysBeforeYear 10000 = 3652059 := by decide
    unfold number
    rw [surplus_eq valid dated.year_ge]
    split <;> omega

/-! ## From serials to dates -/

theorem Dated.toDate_number (dated : Dated d) : toDate (number d) = .ok d := by
  obtain ⟨positive, within⟩ := dated.number_bounds
  rcases dated.valid_or with rfl | valid
  · rfl
  · have shifted : number d ≠ extraDay ∧
        epoch + (if extraDay < number d then number d - 1 else number d) = dayNumber d := by
      unfold number extraDay
      rw [surplus_eq valid dated.year_ge]
      split <;> split <;> omega
    unfold toDate
    rw [if_neg (by omega), if_neg (by omega), if_neg shifted.1, shifted.2, valid.ofDayNumber_dayNumber]

theorem toDate_spec (positive : 1 ≤ s) (within : s ≤ last) :
    ∃ d, toDate s = .ok d ∧ Dated d ∧ number d = s := by
  by_cases extra : s = extraDay
  · subst extra
    exact ⟨⟨1900, 2, 29⟩, rfl, ⟨by decide, by decide, by decide, by decide, by decide, by decide⟩, rfl⟩
  · have latest : last = 2958465 := rfl
    have first := epoch_eq
    have extra_eq : extraDay = 60 := rfl
    generalize offset_eq : (if extraDay < s then s - 1 else s) = offset
    obtain ⟨valid, day⟩ := Date.ofDayNumber_spec (epoch + offset)
    obtain ⟨⟨low, high⟩, _⟩ := valid.bounds
    have start' : daysBeforeYear 1900 = 693595 := by decide
    have stop' : daysBeforeYear 10000 = 3652059 := by decide
    have year_ge : 1900 ≤ (Date.ofDayNumber (epoch + offset)).year := by
      by_contra before
      have years := Gregorian.daysBeforeYear_mono (Int.add_one_le_iff.2 (Int.not_le.1 before))
      omega
    have year_le : (Date.ofDayNumber (epoch + offset)).year ≤ 9999 := by
      by_contra beyond
      have years := Gregorian.daysBeforeYear_mono
        (show 10000 ≤ (Date.ofDayNumber (epoch + offset)).year by omega)
      omega
    refine ⟨Date.ofDayNumber (epoch + offset), ?_, dated_of_valid valid year_ge year_le, ?_⟩
    · unfold toDate
      rw [if_neg (by omega), if_neg (by omega), if_neg extra, offset_eq]
    · unfold number
      rw [surplus_eq valid year_ge, day]
      split <;> omega

/-! ## From parts to serials -/

theorem monthStart_eq (low : 1900 ≤ year) (high : year ≤ 9999) {month : Nat} (positive : 1 ≤ month)
    (few : month ≤ 12) : monthStart year month = some (number ⟨year, month, 1⟩) := by
  have valid : (⟨year, month, 1⟩ : Date).Valid := ⟨positive, few, Nat.le_refl 1, Gregorian.daysInMonth_pos _ _⟩
  unfold monthStart number extraDay
  rw [if_pos (coversYear_of_bounds low (by omega)), surplus_eq valid low]
  dsimp only
  congr 1
  split <;> split <;> omega

theorem ofParts_dated (dated : Dated d) (early : 0 ≤ year) (late : year ≤ 9999)
    (sameMonth : year * 12 + month = d.year * 12 + (d.month - 1)) :
    ofParts year month d.day = .ok (number d) := by
  have low := dated.year_ge
  have high := dated.year_le
  have first := dated.month_pos
  have few := dated.month_le
  have some := dated.day_pos
  have bounds := dated.number_bounds
  have latest : last = 2958465 := rfl
  have day_eq : number ⟨d.year, d.month, 1⟩ + ((d.day : Int) - 1) = number d := by
    unfold number dayNumber
    dsimp only
    omega
  have inside : number ⟨d.year, d.month, 1⟩ ≤ number d := by omega
  have positive := (show Dated ⟨d.year, d.month, 1⟩ from
    ⟨low, high, first, few, Nat.le_refl 1, some.trans dated.day_le⟩).number_bounds
  have year_eq : (year * 12 + month) / 12 = d.year := by omega
  have month_eq : ((year * 12 + month) % 12).toNat + 1 = d.month := by omega
  unfold ofParts
  rw [saturate_of_bounds (n := year * 12) (by omega) (by omega), saturate_of_bounds (by omega) (by omega)]
  dsimp only
  rw [year_eq, month_eq, if_neg (by simp [fitsYear_of_bounds low high]), monthStart_eq low high first few]
  dsimp only
  rw [saturate_of_bounds (n := (d.day : Int) - 1) (by omega) (by omega), day_eq,
    saturate_of_bounds (by omega) (by omega), if_pos (by omega)]

theorem ofParts_twelve (early : 0 ≤ year) (late : year ≤ 9999) (month day : Int) :
    ofParts year (month + 12) day = ofParts (year + 1) month day := by
  have months : year * 12 + (month + 12) = (year + 1) * 12 + month := by omega
  unfold ofParts
  rw [saturate_of_bounds (n := year * 12) (by omega) (by omega),
    saturate_of_bounds (n := (year + 1) * 12) (by omega) (by omega), months]

/-- Months that lie too far ahead or back are refused, also where their sum saturates. -/
theorem ofParts_far (early : 0 ≤ year) (late : year ≤ 9999) (far : 2 ^ 51 ≤ month.natAbs) (day : Int) :
    ofParts year month day = .error .badNumber := by
  have least : Int64.minValue.toInt = -2 ^ 63 := rfl
  have greatest : Int64.maxValue.toInt = 2 ^ 63 - 1 := rfl
  have beyond : ¬ fitsYear (Binary64.saturate (year * 12 + month) / 12) = true := by
    simp only [fitsYear, Bool.and_eq_true, decide_eq_true_eq]
    rintro ⟨low, high⟩
    have low : -2 ^ 31 ≤ Binary64.saturate (year * 12 + month) / 12 := low
    have high : Binary64.saturate (year * 12 + month) / 12 ≤ 2 ^ 31 - 1 := high
    unfold Binary64.saturate Binary64.clamp at low high
    omega
  unfold ofParts
  rw [saturate_of_bounds (n := year * 12) (by omega) (by omega)]
  exact if_pos beyond

/-! ## Whole months later -/

def later (d : Date) (months : Int) : Date :=
  let total := d.year * 12 + (d.month - 1) + months
  let month := (total % 12).toNat + 1
  ⟨total / 12, month, min d.day (monthLength (total / 12) month)⟩

theorem monthLength_pos (year : Int) (month : Nat) : 1 ≤ monthLength year month := by
  unfold monthLength
  split
  · decide
  · exact Gregorian.daysInMonth_pos year month

theorem monthLength_le (year : Int) (month : Nat) : monthLength year month ≤ 31 := by
  unfold monthLength
  split
  · decide
  · exact Gregorian.daysInMonth_le year month

variable {months : Int}

theorem dated_later (dated : Dated d) (low : 1900 * 12 ≤ d.year * 12 + (d.month - 1) + months)
    (high : d.year * 12 + (d.month - 1) + months < 10000 * 12) : Dated (later d months) := by
  refine ⟨?_, ?_, ?_, ?_, Nat.le_min.2 ⟨dated.day_pos, monthLength_pos _ _⟩, Nat.min_le_right _ _⟩
  · show 1900 ≤ (d.year * 12 + (d.month - 1) + months) / 12
    omega
  · show (d.year * 12 + (d.month - 1) + months) / 12 ≤ 9999
    omega
  · exact Nat.succ_pos _
  · show ((d.year * 12 + (d.month - 1) + months) % 12).toNat + 1 ≤ 12
    omega

theorem later_zero (dated : Dated d) : later d 0 = d := by
  have first := dated.month_pos
  have few := dated.month_le
  have year_eq : (d.year * 12 + ((d.month : Int) - 1) + 0) / 12 = d.year := by omega
  have month_eq : ((d.year * 12 + ((d.month : Int) - 1) + 0) % 12).toNat + 1 = d.month := by omega
  unfold later
  dsimp only
  rw [year_eq, month_eq, Nat.min_eq_left dated.day_le]

/-- The month total is made up twice, once to find the last day of the month and once to count on to
the serial. -/
theorem monthsLater_dated {start count : FormulaValue} {x : Float} (begins : dateOf start = .ok d)
    (dated : Dated d) (counts : count.toNumber = .ok x) (whole : Binary64.truncate64 x = months)
    (low : 1900 * 12 ≤ d.year * 12 + (d.month - 1) + months)
    (high : d.year * 12 + (d.month - 1) + months < 10000 * 12) :
    monthsLater start count = .ok (number (later d months)) := by
  have target := dated_later dated low high
  have year_ge := dated.year_ge
  have year_le := dated.year_le
  have first := dated.month_pos
  have few := dated.month_le
  have year_eq : (d.year * 12 + ((d.month : Int) - 1 + months)) / 12 = (later d months).year := by
    rw [← Int.add_assoc]
    rfl
  have month_eq : ((d.year * 12 + ((d.month : Int) - 1 + months)) % 12).toNat + 1 =
      (later d months).month := by
    rw [← Int.add_assoc]
    rfl
  have day_eq : max 1 (min (monthLength (later d months).year (later d months).month : Int) d.day) =
      (later d months).day := by
    have positive := target.day_pos
    have least : (later d months).day =
      min d.day (monthLength (later d months).year (later d months).month) := rfl
    omega
  have total : d.year * 12 + ((d.month : Int) - 1 + months) =
      (later d months).year * 12 + ((later d months).month - 1) := by omega
  unfold monthsLater
  rw [begins, ok_bind, counts, ok_bind, whole]
  dsimp only
  rw [saturate_of_bounds (n := (d.month : Int) - 1 + months) (by omega) (by omega),
    saturate_of_bounds (by omega) (by omega), year_eq, month_eq,
    if_neg (by simp [fitsYear_of_bounds target.year_ge target.year_le]),
    daysInMonth_eq target.year_ge target.year_le]
  dsimp only
  rw [day_eq]
  exact ofParts_dated target (by omega) year_le total

end Spreadsheet.Serial
