import Spreadsheet.Cell.Value
import Spreadsheet.Grid.Range

namespace Spreadsheet

inductive BinaryOp
  | equal | notEqual | less | lessEqual | greater | greaterEqual
  | concat
  | add | subtract
  | multiply | divide
  | power
deriving DecidableEq

namespace BinaryOp

def symbol : BinaryOp → String
  | equal => "="
  | notEqual => "<>"
  | less => "<"
  | lessEqual => "<="
  | greater => ">"
  | greaterEqual => ">="
  | concat => "&"
  | add => "+"
  | subtract => "-"
  | multiply => "*"
  | divide => "/"
  | power => "^"

def level : BinaryOp → Nat
  | equal | notEqual | less | lessEqual | greater | greaterEqual => 1
  | concat => 2
  | add | subtract => 3
  | multiply | divide => 4
  | power => 5

end BinaryOp

inductive Expr
  | number (x : Float)
  | text (s : String)
  | boolean (b : Bool)
  | error (code : ErrorCode)
  | cell (ref : CellRef)
  | range (r : CellRange)
  | binary (op : BinaryOp) (left right : Expr)
  | negate (e : Expr)
  | call (function : String) (args : List Expr)
deriving Inhabited

namespace Expr

abbrev signLevel : Nat := 6

abbrev primaryLevel : Nat := 7

def level : Expr → Nat
  | binary op .. => op.level
  | negate _ => signLevel
  | number x => if Binary64.isNegative x && x != 0 then signLevel else primaryLevel
  | _ => primaryLevel

def quoteText (s : String) : List Char :=
  '"' :: s.toList.flatMap (fun c => if c = '"' then ['"', '"'] else [c]) ++ ['"']

def parenthesize (wanted : Bool) (cs : List Char) : List Char :=
  if wanted then '(' :: cs ++ [')'] else cs

mutual

/-- The canonical text. An operand on the right needs parentheses at an equal level too. -/
def chars : Expr → List Char
  | number x => (Decimal.write x).toList
  | text s => quoteText s
  | boolean b => (booleanText b).toList
  | error code => code.write.toList
  | cell ref => ref.write
  | range r => r.write
  | binary op left right =>
    parenthesize (left.level < op.level) (chars left) ++ op.symbol.toList ++
      parenthesize (right.level ≤ op.level) (chars right)
  | negate e => '-' :: parenthesize (e.level < signLevel) (chars e)
  | call function args => function.toList ++ '(' :: argChars args ++ [')']

def argChars : List Expr → List Char
  | [] => []
  | [e] => chars e
  | e :: rest => chars e ++ ',' :: argChars rest

end

def write (e : Expr) : String := String.ofList e.chars

def writeFormula (e : Expr) : String := String.ofList ('=' :: e.chars)

mutual

def references : Expr → List CellRange
  | cell ref => [.single ref]
  | range r => [r]
  | binary _ left right => references left ++ references right
  | negate e => references e
  | call _ args => argReferences args
  | _ => []

def argReferences : List Expr → List CellRange
  | [] => []
  | e :: rest => references e ++ argReferences rest

end

mutual

/-- Equal trees. Numbers are compared as numbers, so both zeros are equal and what is no number
equals nothing. -/
def same : Expr → Expr → Bool
  | number x, number y => x == y
  | text s, text t => s == t
  | boolean b, boolean c => b == c
  | error code, error code' => code == code'
  | cell ref, cell ref' => ref == ref'
  | range r, range r' => r == r'
  | binary op left right, binary op' left' right' =>
    op == op' && same left left' && same right right'
  | negate e, negate e' => same e e'
  | call function args, call function' args' => function == function' && sameAll args args'
  | _, _ => false

def sameAll : List Expr → List Expr → Bool
  | [], [] => true
  | e :: rest, e' :: rest' => same e e' && sameAll rest rest'
  | _, _ => false

end

end Expr

end Spreadsheet
