import Spreadsheet.Calendar.Serial
import Spreadsheet.Eval.Aggregate
import Spreadsheet.Eval.Logic
import Spreadsheet.Eval.Lookup
import Spreadsheet.Eval.TextPart
import Spreadsheet.Formula.Builtin

namespace Spreadsheet

namespace ErrorPolicy

def firstError? (policy : ErrorPolicy) (args : List FormulaValue) : Option ErrorCode :=
  match policy with
  | trap => none
  | scalars => args.findSome? FormulaValue.errorCode?
  | propagate => args.findSome? FormulaValue.firstError?

end ErrorPolicy

namespace FormulaValue

def numberAnswer (a : Answer Float) : FormulaValue := ofAnswer number a

/-- A count is a word of 64 bits, which is as far as texts and tables go. -/
def countAnswer (a : Answer Nat) : FormulaValue :=
  ofAnswer (fun n => number (Binary64.ofNat (min n (UInt64.size - 1)))) a

def integerAnswer (a : Answer Int) : FormulaValue := ofAnswer (fun n => number (Binary64.ofInt n)) a

def booleanAnswer (a : Answer Bool) : FormulaValue := ofAnswer boolean a

def textAnswer (a : Answer String) : FormulaValue := ofAnswer text a

end FormulaValue

namespace Builtin

open FormulaValue (numberAnswer countAnswer integerAnswer booleanAnswer textAnswer)

def run? : Builtin → List FormulaValue → Option FormulaValue
  | sum, args => some (numberAnswer ((Aggregate.numbers args).map Aggregate.total))
  | average, args => some (numberAnswer ((Aggregate.numbers args).bind Aggregate.mean))
  | min, args => some (numberAnswer ((Aggregate.numbers args).map Aggregate.least))
  | max, args => some (numberAnswer ((Aggregate.numbers args).map Aggregate.greatest))
  | count, args => some (countAnswer (.ok (Aggregate.count args)))
  | abs, [x] => some (numberAnswer (x.toNumber.map Float.abs))
  | round, [x, digits] => some (numberAnswer (Aggregate.roundTo x digits))
  | ifElse, [condition, yes] => some (Logic.choose condition yes (.boolean false))
  | ifElse, [condition, yes, no] => some (Logic.choose condition yes no)
  | and, args => some (booleanAnswer ((Logic.truths args).map fun bs => bs.all id))
  | or, args => some (booleanAnswer ((Logic.truths args).map fun bs => bs.any id))
  | not, [x] => some (booleanAnswer (x.toBoolean.map Bool.not))
  | iferror, [x, fallback] => some (Logic.orElse x fallback)
  | vlookup, [key, table, i] => Lookup.vertical key table i none
  | vlookup, [key, table, i, mode] => Lookup.vertical key table i (some mode)
  | hlookup, [key, table, i] => Lookup.horizontal key table i none
  | hlookup, [key, table, i, mode] => Lookup.horizontal key table i (some mode)
  | index, [table, i] => Lookup.index table i none
  | index, [table, i, j] => Lookup.index table i (some j)
  | matchKey, [key, table] => some (countAnswer (Lookup.matchPosition key table none))
  | matchKey, [key, table, mode] => some (countAnswer (Lookup.matchPosition key table (some mode)))
  | concat, args => some (textAnswer (TextPart.join args))
  | left, [s] => some (textAnswer (TextPart.take TextPart.takeLeft s none))
  | left, [s, n] => some (textAnswer (TextPart.take TextPart.takeLeft s (some n)))
  | right, [s] => some (textAnswer (TextPart.take TextPart.takeRight s none))
  | right, [s, n] => some (textAnswer (TextPart.take TextPart.takeRight s (some n)))
  | len, [s] => some (countAnswer (s.toText.map String.length))
  | upper, [s] => some (textAnswer (s.toText.map Text.upper))
  | lower, [s] => some (textAnswer (s.toText.map Text.lower))
  | date, [y, m, d] => some (integerAnswer (Serial.ofDate y m d))
  | year, [serial] => some (integerAnswer ((Serial.dateOf serial).map Date.year))
  | month, [serial] => some (countAnswer ((Serial.dateOf serial).map Date.month))
  | day, [serial] => some (countAnswer ((Serial.dateOf serial).map Date.day))
  | days, [finish, start] => some (numberAnswer (Serial.daysBetween finish start))
  | edate, [start, months] => some (integerAnswer (Serial.monthsLater start months))
  | _, _ => none

/-- The value of a call, unless the program dies of it. -/
def call (f : Builtin) (args : List FormulaValue) : Option FormulaValue :=
  match f.policy.firstError? args with
  | some code => some (.error code)
  | none => f.run? args

end Builtin

end Spreadsheet
