import Spreadsheet.Text.Case

namespace Spreadsheet

inductive Builtin
  | abs | and | average | concat | count | date | day | days | edate | hlookup | ifElse | iferror
  | index | left | len | lower | matchKey | max | min | month | not | or | right | round | sum
  | upper | vlookup | year
deriving DecidableEq

/-- What an error among the arguments does before the function itself looks at them. -/
inductive ErrorPolicy
  /-- The first error in any argument, inside ranges too, is the result. -/
  | propagate
  /-- The first argument that is an error is the result; ranges pass. -/
  | scalars
  | trap
deriving DecidableEq

structure Arity where
  min : Nat
  max : Option Nat
deriving DecidableEq

namespace Arity

def exactly (n : Nat) : Arity := ⟨n, some n⟩

def between (m n : Nat) : Arity := ⟨m, some n⟩

def atLeast (n : Nat) : Arity := ⟨n, none⟩

def Allows (a : Arity) (n : Nat) : Prop := a.min ≤ n ∧ ∀ m ∈ a.max, n ≤ m

instance (a : Arity) (n : Nat) : Decidable (a.Allows n) :=
  inferInstanceAs (Decidable (_ ∧ _))

def describe (a : Arity) : String :=
  match a.max with
  | some max =>
    if max = a.min then toString max else toString a.min ++ " to " ++ toString max
  | none => "at least " ++ toString a.min

end Arity

namespace Builtin

def all : List Builtin :=
  [abs, and, average, concat, count, date, day, days, edate, hlookup, ifElse, iferror, index, left,
    len, lower, matchKey, max, min, month, not, or, right, round, sum, upper, vlookup, year]

def name : Builtin → String
  | abs => "ABS"
  | and => "AND"
  | average => "AVERAGE"
  | concat => "CONCAT"
  | count => "COUNT"
  | date => "DATE"
  | day => "DAY"
  | days => "DAYS"
  | edate => "EDATE"
  | hlookup => "HLOOKUP"
  | ifElse => "IF"
  | iferror => "IFERROR"
  | index => "INDEX"
  | left => "LEFT"
  | len => "LEN"
  | lower => "LOWER"
  | matchKey => "MATCH"
  | max => "MAX"
  | min => "MIN"
  | month => "MONTH"
  | not => "NOT"
  | or => "OR"
  | right => "RIGHT"
  | round => "ROUND"
  | sum => "SUM"
  | upper => "UPPER"
  | vlookup => "VLOOKUP"
  | year => "YEAR"

def ofName? (s : String) : Option Builtin := all.find? fun f => Text.sameIgnoringCase f.name s

def arity : Builtin → Arity
  | sum | average | min | max | count | and | or | concat => .atLeast 1
  | abs | not | len | upper | lower | year | month | day => .exactly 1
  | round | iferror | days | edate => .exactly 2
  | date => .exactly 3
  | left | right => .between 1 2
  | ifElse | index | matchKey => .between 2 3
  | vlookup | hlookup => .between 3 4

def policy : Builtin → ErrorPolicy
  | sum | average | min | max | and | or | concat => .propagate
  | count | ifElse | iferror => .trap
  | _ => .scalars

end Builtin

end Spreadsheet
