import Spreadsheet.Formula.Lexer

/-!
# From tokens to expressions

A descent through the levels of binary operators, loosest first and every level left associative,
then signs, ranges and primaries. Each function returns the tokens that it leaves beside a proof
that they are fewer, which is why the descent ends.

`parseFormula` reads a whole formula. A fault of the text comes up as soon as the last token before
it is passed, so of two faults the one further left in the text is not always the one reported.
-/

namespace Spreadsheet

def Token.binaryOp? : Token → Option BinaryOp
  | .equal => some .equal
  | .notEqual => some .notEqual
  | .less => some .less
  | .lessEqual => some .lessEqual
  | .greater => some .greater
  | .greaterEqual => some .greaterEqual
  | .ampersand => some .concat
  | .plus => some .add
  | .minus => some .subtract
  | .star => some .multiply
  | .slash => some .divide
  | .caret => some .power
  | _ => none

def Token.operatorAt? (level : Nat) (t : Token) : Option BinaryOp :=
  t.binaryOp?.filter fun op => op.level == level

namespace Parser

/-- What is read from `ts`, and the tokens left, which are fewer. -/
abbrev Parsed (α : Type) (ts : List Token) : Type :=
  Except FormulaFault (α × { rest : List Token // rest.length < ts.length })

abbrev ParsedMore (α : Type) (ts : List Token) : Type :=
  Except FormulaFault (α × { rest : List Token // rest.length ≤ ts.length })

/-- Past the last token the fault of the text comes up. -/
def settle (fault : Option ParseFault) (rest : List Token) : Except FormulaFault Unit :=
  match rest, fault with
  | [], some f => .error (.unparsable f)
  | _, _ => .ok ()

def parseRef (word : String) : Except FormulaFault CellRef :=
  (CellRef.parse word.toList).mapError (.badReference word)

/-- A minus in front of a number is part of the number. -/
def negated : Expr → Expr
  | .number x => .number (-x)
  | e => .negate e

def parseClose (fault : Option ParseFault) (ts : List Token) : Parsed Unit ts :=
  match ts with
  | .rightParen :: rest => do
    settle fault rest
    return ((), ⟨rest, Nat.lt_succ_self _⟩)
  | ts => .error (.unparsable (.unclosedParen ts))

def parseRangeEnd (fault : Option ParseFault) (e : Expr) (ts : List Token) : Parsed Expr ts :=
  match e with
  | .cell first =>
    match ts with
    | .cell word :: rest => do
      settle fault rest
      let last ← parseRef word
      return (.range (.between first last), ⟨rest, Nat.lt_succ_self _⟩)
    | ts => do
      settle fault ts.tail
      .error (.unparsable (.rangeEnd ts))
  | e => .error (.unparsable (.rangeStart e))

mutual

/-- An expression whose binary operators outside parentheses have at least the given level. From
the level of signs on there are none. -/
def parseLevel (fault : Option ParseFault) (level : Nat) (ts : List Token) : Parsed Expr ts :=
  if level < 6 then do
    let (left, ⟨rest, h⟩) ← parseLevel fault (level + 1) ts
    let (e, ⟨rest, h'⟩) ← parseOperators fault level left rest
    return (e, ⟨rest, Nat.lt_of_le_of_lt h' h⟩)
  else parseSign fault ts
termination_by (ts.length, 4 + (6 - level))

def parseOperators (fault : Option ParseFault) (level : Nat) (left : Expr) (ts : List Token) :
    ParsedMore Expr ts :=
  match ts with
  | [] => .ok (left, ⟨[], Nat.le_refl _⟩)
  | t :: rest =>
    match t.operatorAt? level with
    | some op => do
      settle fault rest
      let (right, ⟨rest', h⟩) ← parseLevel fault (level + 1) rest
      let (e, ⟨rest'', h'⟩) ← parseOperators fault level (.binary op left right) rest'
      return (e, ⟨rest'', Nat.le_succ_of_le (Nat.le_trans h' (Nat.le_of_lt h))⟩)
    | none => .ok (left, ⟨t :: rest, Nat.le_refl _⟩)
termination_by (ts.length, 0)

def parseSign (fault : Option ParseFault) (ts : List Token) : Parsed Expr ts :=
  match ts with
  | .minus :: rest => do
    settle fault rest
    let (e, ⟨rest', h⟩) ← parseSign fault rest
    return (negated e, ⟨rest', Nat.lt_succ_of_lt h⟩)
  | .plus :: rest => do
    settle fault rest
    let (e, ⟨rest', h⟩) ← parseSign fault rest
    return (e, ⟨rest', Nat.lt_succ_of_lt h⟩)
  | ts => parseRange fault ts
termination_by (ts.length, 3)

def parseRange (fault : Option ParseFault) (ts : List Token) : Parsed Expr ts := do
  let (e, ⟨rest, h⟩) ← parsePrimary fault ts
  match rest, h with
  | .colon :: rest', h =>
    settle fault rest'
    let (r, ⟨rest'', h'⟩) ← parseRangeEnd fault e rest'
    return (r, ⟨rest'', Nat.lt_trans h' (Nat.lt_of_succ_lt h)⟩)
  | rest, h => return (e, ⟨rest, h⟩)
termination_by (ts.length, 2)

def parsePrimary (fault : Option ParseFault) (ts : List Token) : Parsed Expr ts :=
  match ts with
  | [] => .error (.unparsable .unexpectedEnd)
  | t :: rest => do
    settle fault rest
    match t with
    | .number x => return (.number x, ⟨rest, Nat.lt_succ_self _⟩)
    | .text s => return (.text s, ⟨rest, Nat.lt_succ_self _⟩)
    | .boolean b => return (.boolean b, ⟨rest, Nat.lt_succ_self _⟩)
    | .error code => return (.error code, ⟨rest, Nat.lt_succ_self _⟩)
    | .cell word =>
      let ref ← parseRef word
      return (.cell ref, ⟨rest, Nat.lt_succ_self _⟩)
    | .leftParen =>
      let (e, ⟨rest', h⟩) ← parseLevel fault 1 rest
      let (_, ⟨rest'', h'⟩) ← parseClose fault rest'
      return (e, ⟨rest'', by simp only [List.length_cons]; omega⟩)
    | .name word =>
      match hr : rest with
      | .leftParen :: inside =>
        match Builtin.ofName? word with
        | none => .error (.unknownFunction (String.ofList (word.toList.map Char.toUpper)))
        | some f =>
          settle fault inside
          let (args, ⟨rest', h⟩) ← parseArgs fault inside
          let (_, ⟨rest'', h'⟩) ← parseClose fault rest'
          if f.arity.Allows args.length then
            return (.call f.name args, ⟨rest'', by simp only [hr, List.length_cons]; omega⟩)
          else .error (.argumentCount f args.length)
      | _ => .error (.unparsable (.unknownName word))
    | .rightParen => .error (.unparsable .strayParen)
    | t => .error (.unparsable (.unexpectedToken t))
termination_by (ts.length, 1)

def parseArgs (fault : Option ParseFault) (ts : List Token) : ParsedMore (List Expr) ts :=
  match ts with
  | .rightParen :: rest => .ok ([], ⟨.rightParen :: rest, Nat.le_refl _⟩)
  | ts => do
    let (e, ⟨rest, h⟩) ← parseLevel fault 1 ts
    let (args, ⟨rest', h'⟩) ← parseMoreArgs fault rest
    return (e :: args, ⟨rest', by omega⟩)
termination_by (ts.length, 20)

def parseMoreArgs (fault : Option ParseFault) (ts : List Token) : ParsedMore (List Expr) ts :=
  match ts with
  | .comma :: rest => do
    settle fault rest
    let (e, ⟨rest', h⟩) ← parseLevel fault 1 rest
    let (args, ⟨rest'', h'⟩) ← parseMoreArgs fault rest'
    return (e :: args, ⟨rest'', by simp only [List.length_cons]; omega⟩)
  | ts => .ok ([], ⟨ts, Nat.le_refl _⟩)
termination_by (ts.length, 0)

end

def parseWhole (fault : Option ParseFault) (ts : List Token) : Except FormulaFault Expr := do
  settle fault ts
  let (e, ⟨rest, _⟩) ← parseLevel fault 1 ts
  match rest with
  | [] => return e
  | .rightParen :: _ => .error (.unparsable .strayParen)
  | t :: _ => .error (.unparsable (.trailing t))

end Parser

def parseFormula (text : String) : Except FormulaFault Expr :=
  match Text.trimBlanks text.toList with
  | '=' :: body =>
    if body.all Text.isBlank then .error (.unparsable .empty)
    else
      let (ts, fault) := Lexer.tokens 0 body
      Parser.parseWhole fault ts
  | _ => .error (.unparsable .noEqualsSign)

end Spreadsheet
