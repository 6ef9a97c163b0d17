import Spreadsheet.Calendar.Gregorian
import Spreadsheet.Eval.Value
import Spreadsheet.Number.Binary64

/-!
# Serial dates

Dates are numbers of days: serial 1 is 1 January 1900 and the last serial is 31 December 9999.
Serial 60 is 29 February 1900, a day that the calendar does not have, so later serials count one day
more than have passed. Serial 0 is day 0 of January 1900.
-/

namespace Spreadsheet.Serial

def last : Int := 2958465

/-- 29 February 1900. -/
def extraDay : Int := 60

def epoch : Int := Gregorian.dayNumber ⟨1899, 12, 31⟩

def coversYear (year : Int) : Bool := -262143 ≤ year && year ≤ 262142

def monthStart (year : Int) (month : Nat) : Option Int :=
  if coversYear year then
    let days := Gregorian.dayNumber ⟨year, month, 1⟩ - epoch
    some (if extraDay ≤ days then days + 1 else days)
  else none

def daysInMonth (year : Int) (month : Nat) : Option Nat :=
  if year = 1900 ∧ month = 2 then some 29
  else if coversYear year ∧ (month = 12 → coversYear (year + 1)) then
    some (Gregorian.daysInMonth year month)
  else none

def fitsYear (year : Int) : Bool :=
  Int32.minValue.toInt ≤ year && year ≤ Int32.maxValue.toInt

/-- The serial of a day in a month, both counted on past their ends; `month` starts at 0 for
January of `year`. -/
def ofParts (year month day : Int) : Answer Int :=
  let total := Binary64.saturate (Binary64.saturate (year * 12) + month)
  let y := total / 12
  if ¬ fitsYear y then .error .badNumber
  else
    match monthStart y ((total % 12).toNat + 1) with
    | none => .error .badNumber
    | some start =>
      let serial := Binary64.saturate (start + Binary64.saturate (day - 1))
      if 0 ≤ serial ∧ serial ≤ last then .ok serial else .error .badNumber

def toDate (serial : Int) : Answer Date :=
  if serial < 0 ∨ last < serial then .error .badNumber
  else if serial = 0 then .ok ⟨1900, 1, 0⟩
  else if serial = extraDay then .ok ⟨1900, 2, 29⟩
  else .ok (Date.ofDayNumber (epoch + if extraDay < serial then serial - 1 else serial))

def dateOf (v : FormulaValue) : Answer Date := do toDate (Binary64.truncate64 (← v.toNumber))

def ofDate (year month day : FormulaValue) : Answer Int := do
  let year := Binary64.truncate64 (← year.toNumber)
  let month := Binary64.truncate64 (← month.toNumber)
  let day := Binary64.truncate64 (← day.toNumber)
  let year := if 0 ≤ year ∧ year < 1900 then year + 1900 else year
  if year < 0 ∨ 9999 < year then .error .badNumber
  else ofParts year (Binary64.saturate (month - 1)) day

def daysBetween (finish start : FormulaValue) : Answer Float := do
  let x ← finish.toNumber
  let y ← start.toNumber
  let _ ← toDate (Binary64.truncate64 x)
  let _ ← toDate (Binary64.truncate64 y)
  return Binary64.trunc x - Binary64.trunc y

def monthsLater (start months : FormulaValue) : Answer Int := do
  let date ← dateOf start
  let months := Binary64.truncate64 (← months.toNumber)
  let month := Binary64.saturate (date.month - 1 + months)
  let total := Binary64.saturate (date.year * 12 + month)
  let year := total / 12
  if ¬ fitsYear year then .error .badNumber
  else
    match daysInMonth year ((total % 12).toNat + 1) with
    | none => .error .badNumber
    | some last => ofParts date.year month (max 1 (min last date.day))

end Spreadsheet.Serial
