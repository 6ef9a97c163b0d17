import Spreadsheet.Calendar.Gregorian

namespace Spreadsheet

namespace Gregorian
variable {year : Int} {month month' n : Nat}

def yearLength (year : Int) : Nat := if isLeap year then 366 else 365

theorem daysBeforeYear_succ (year : Int) :
    daysBeforeYear (year + 1) = daysBeforeYear year + yearLength year := by
  unfold daysBeforeYear yearLength isLeap
  simp only [Bool.and_eq_true, Bool.or_eq_true, beq_iff_eq, bne_iff_ne]
  split <;> omega

theorem daysBeforeYear_mono {year year' : Int} (h : year ≤ year') :
    daysBeforeYear year ≤ daysBeforeYear year' := by
  unfold daysBeforeYear
  dsimp only
  omega

theorem daysBeforeMonth_succ (year : Int) (positive : 1 ≤ month) :
    daysBeforeMonth year (month + 1) = daysBeforeMonth year month + daysInMonth year month := by
  obtain ⟨k, rfl⟩ := Nat.exists_eq_add_of_le positive
  unfold daysBeforeMonth
  rw [Nat.add_sub_cancel, Nat.add_sub_cancel_left, Nat.add_comm 1 k, List.range'_concat,
    List.foldl_append]
  simp [Nat.add_comm]

theorem daysInMonth_pos (year : Int) (month : Nat) : 1 ≤ daysInMonth year month := by
  unfold daysInMonth
  split
  · split <;> decide
  all_goals decide

theorem daysInMonth_le (year : Int) (month : Nat) : daysInMonth year month ≤ 31 := by
  unfold daysInMonth
  split
  · split <;> decide
  all_goals decide

theorem daysBeforeMonth_first (year : Int) : daysBeforeMonth year 1 = 0 := rfl

theorem daysBeforeMonth_mono (year : Int) (h : month ≤ month') :
    daysBeforeMonth year month ≤ daysBeforeMonth year month' := by
  induction h with
  | refl => exact Nat.le_refl _
  | @step month' _ ih =>
      cases month' with
      | zero => exact ih
      | succ k =>
          rw [daysBeforeMonth_succ year (Nat.succ_pos k)]
          exact Nat.le_trans ih (Nat.le_add_right _ _)

theorem daysBeforeMonth_last (year : Int) : daysBeforeMonth year 13 = yearLength year := by
  unfold yearLength
  simp only [daysBeforeMonth, Nat.reduceSub, List.range', List.foldl, daysInMonth]
  split <;> rfl

theorem yearOf_spec (n : Int) :
    daysBeforeYear (yearOf n) < n ∧ n ≤ daysBeforeYear (yearOf n + 1) := by
  unfold yearOf
  generalize estimate : 400 * n / 146097 = q
  unfold daysBeforeYear
  simp only [Int.add_sub_cancel]
  split
  · omega
  · split
    · simp only [Int.add_sub_cancel]
      omega
    · simp only [Int.add_sub_cancel]
      omega

theorem monthOf_spec (year : Int) (month n left : Nat) (first : 1 ≤ month) (positive : 1 ≤ n)
    (inside : daysBeforeMonth year month + n ≤ daysBeforeMonth year (month + left + 1)) :
    (month ≤ (monthOf year month n left).1 ∧ (monthOf year month n left).1 ≤ month + left) ∧
      (1 ≤ (monthOf year month n left).2 ∧
        (monthOf year month n left).2 ≤ daysInMonth year (monthOf year month n left).1) ∧
      daysBeforeMonth year (monthOf year month n left).1 + (monthOf year month n left).2 =
        daysBeforeMonth year month + n := by
  -- Month by month, the day that is looked for stays the same day of the year.
  induction left generalizing month n with
  | zero =>
      rw [Nat.add_zero, daysBeforeMonth_succ year first] at inside
      exact ⟨⟨Nat.le_refl _, Nat.le_refl _⟩, ⟨positive, Nat.le_of_add_le_add_left inside⟩, rfl⟩
  | succ left ih =>
      unfold monthOf
      split
      · rename_i here
        exact ⟨⟨Nat.le_refl _, Nat.le_add_right _ _⟩, ⟨positive, here⟩, rfl⟩
      · rename_i later
        have next := daysBeforeMonth_succ year first
        have months : month + 1 + left + 1 = month + (left + 1) + 1 := by omega
        obtain ⟨⟨low, high⟩, day, number⟩ := ih (month + 1)
          (n - daysInMonth year month) (by omega) (by omega) (by rw [next, months]; omega)
        exact ⟨⟨by omega, by omega⟩, day, by rw [number, next]; omega⟩

end Gregorian

namespace Date
open Gregorian

structure Valid (d : Date) : Prop where
  month_pos : 1 ≤ d.month
  month_le : d.month ≤ 12
  day_pos : 1 ≤ d.day
  day_le : d.day ≤ daysInMonth d.year d.month

variable {d d' : Date}

theorem Valid.bounds (valid : d.Valid) :
    (daysBeforeYear d.year < dayNumber d ∧ dayNumber d ≤ daysBeforeYear (d.year + 1)) ∧
      daysBeforeMonth d.year d.month + d.day ≤ daysBeforeMonth d.year (d.month + 1) := by
  have month := daysBeforeMonth_succ d.year valid.month_pos
  have year : daysBeforeMonth d.year (d.month + 1) ≤ yearLength d.year := by
    rw [← daysBeforeMonth_last]
    exact daysBeforeMonth_mono d.year (Nat.succ_le_succ valid.month_le)
  have positive := valid.day_pos
  have inside := valid.day_le
  have next := daysBeforeYear_succ d.year
  unfold dayNumber
  omega

theorem Valid.year_eq (valid : d.Valid) {year : Int} (low : daysBeforeYear year < dayNumber d)
    (high : dayNumber d ≤ daysBeforeYear (year + 1)) : d.year = year := by
  obtain ⟨⟨low', high'⟩, _⟩ := valid.bounds
  rcases Int.lt_trichotomy d.year year with less | same | greater
  · have gap := daysBeforeYear_mono (Int.add_one_le_iff.2 less)
    omega
  · exact same
  · have gap := daysBeforeYear_mono (Int.add_one_le_iff.2 greater)
    omega

theorem Valid.eq_of_dayNumber (valid : d.Valid) (valid' : d'.Valid)
    (same : dayNumber d = dayNumber d') : d = d' := by
  have years : d.year = d'.year := by
    obtain ⟨⟨low, high⟩, _⟩ := valid'.bounds
    exact valid.year_eq (same ▸ low) (same ▸ high)
  obtain ⟨year, month, day⟩ := d
  obtain ⟨year', month', day'⟩ := d'
  obtain rfl : year = year' := years
  have inside := valid.bounds.2
  have inside' := valid'.bounds.2
  have positive := valid.day_pos
  have positive' := valid'.day_pos
  simp only [dayNumber] at same inside inside' positive positive'
  have months : month = month' := by
    rcases Nat.lt_trichotomy month month' with less | same | greater
    · have gap := daysBeforeMonth_mono year (show month + 1 ≤ month' from less)
      omega
    · exact same
    · have gap := daysBeforeMonth_mono year (show month' + 1 ≤ month from greater)
      omega
  subst months
  obtain rfl : day = day' := by omega
  rfl

theorem ofDayNumber_spec (n : Int) : (ofDayNumber n).Valid ∧ dayNumber (ofDayNumber n) = n := by
  obtain ⟨low, high⟩ := yearOf_spec n
  have length := daysBeforeYear_succ (yearOf n)
  have months : daysBeforeMonth (yearOf n) (1 + 11 + 1) = yearLength (yearOf n) :=
    daysBeforeMonth_last _
  have start := daysBeforeMonth_first (yearOf n)
  obtain ⟨⟨month_pos, month_le⟩, ⟨day_pos, day_le⟩, number⟩ := monthOf_spec (yearOf n) 1
    (n - daysBeforeYear (yearOf n)).toNat 11 (Nat.le_refl 1) (by omega) (by omega)
  refine ⟨⟨month_pos, month_le, day_pos, day_le⟩, ?_⟩
  unfold dayNumber ofDayNumber
  dsimp only
  omega

theorem Valid.ofDayNumber_dayNumber (valid : d.Valid) : ofDayNumber (dayNumber d) = d :=
  (ofDayNumber_spec _).1.eq_of_dayNumber valid (ofDayNumber_spec _).2

end Date

end Spreadsheet
