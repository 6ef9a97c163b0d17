namespace Spreadsheet

structure Date where
  year : Int
  month : Nat
  day : Nat
deriving DecidableEq

namespace Gregorian

def isLeap (year : Int) : Bool := year % 4 == 0 && (year % 100 != 0 || year % 400 == 0)

def daysBeforeYear (year : Int) : Int :=
  let y := year - 1
  365 * y + y / 4 - y / 100 + y / 400

def daysInMonth (year : Int) (month : Nat) : Nat :=
  match month with
  | 2 => if isLeap year then 29 else 28
  | 4 | 6 | 9 | 11 => 30
  | _ => 31

def daysBeforeMonth (year : Int) (month : Nat) : Nat :=
  (List.range' 1 (month - 1)).foldl (fun days m => days + daysInMonth year m) 0

def dayNumber (d : Date) : Int := daysBeforeYear d.year + daysBeforeMonth d.year d.month + d.day

def yearOf (n : Int) : Int :=
  let estimate := 400 * n / 146097 + 1
  if n ≤ daysBeforeYear estimate then estimate - 1
  else if daysBeforeYear (estimate + 1) < n then estimate + 1
  else estimate

/-- The month and day that lie `n` days into the months from `month` on, of which `left` follow. -/
def monthOf (year : Int) (month n : Nat) : (left : Nat) → Nat × Nat
  | 0 => (month, n)
  | left + 1 =>
    if n ≤ daysInMonth year month then (month, n)
    else monthOf year (month + 1) (n - daysInMonth year month) left

end Gregorian

def Date.ofDayNumber (n : Int) : Date :=
  let year := Gregorian.yearOf n
  let (month, day) := Gregorian.monthOf year 1 (n - Gregorian.daysBeforeYear year).toNat 11
  ⟨year, month, day⟩

end Spreadsheet
