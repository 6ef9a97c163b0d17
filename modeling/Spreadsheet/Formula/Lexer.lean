import Spreadsheet.Formula.Fault
import Spreadsheet.Grid.Reference

namespace Spreadsheet.Lexer

def byteLength (cs : List Char) : Nat := (String.ofList cs).utf8ByteSize

/-- Reads behind an opening quote up to the closing one, and counts the characters read. A quote
written twice stands for one. -/
def readQuoted : List Char → Option (List Char × Nat)
  | [] => none
  | '"' :: '"' :: rest => (readQuoted rest).map fun (s, n) => ('"' :: s, n + 2)
  | c :: rest =>
    if c = '"' then some ([], 1) else (readQuoted rest).map fun (s, n) => (c :: s, n + 1)

def signLexeme : List Char → List Char
  | '+' :: _ => ['+']
  | '-' :: _ => ['-']
  | _ => []

def fractionLexeme : List Char → List Char
  | '.' :: rest => '.' :: rest.takeWhile Char.isDigit
  | _ => []

def exponentLexeme : List Char → List Char
  | e :: rest =>
    let sign := signLexeme rest
    let digits := (rest.drop sign.length).takeWhile Char.isDigit
    if (e = 'e' ∨ e = 'E') ∧ digits ≠ [] then e :: sign ++ digits else []
  | [] => []

def numberLexeme (cs : List Char) : List Char :=
  let whole := cs.takeWhile Char.isDigit
  let rest := cs.drop whole.length
  let fraction := fractionLexeme rest
  whole ++ fraction ++ exponentLexeme (rest.drop fraction.length)

def isWordChar (c : Char) : Bool := c.isAlphanum || c == '_' || c == '$' || c == '.'

def isErrorChar (c : Char) : Bool := c.isAlphanum || c == '!' || c == '/' || c == '?'

def isCellWord (word : List Char) : Bool :=
  let rest := (CellRef.splitMarker word).2
  let digits := (CellRef.splitMarker (rest.dropWhile Char.isAlpha)).2
  rest.head?.any Char.isAlpha && digits.head?.isSome && digits.all Char.isDigit

def opensCall (rest : List Char) : Bool := (rest.dropWhile Text.isBlank).head? == some '('

/-- What a word means before `rest`. In front of an argument list it is a name whatever it says. -/
def wordToken (word rest : List Char) : Token :=
  let s := String.ofList word
  if opensCall rest then .name s
  else
    match readBoolean s with
    | some b => .boolean b
    | none => if isCellWord word then .cell s else .name s

def symbolToken? : Char → Option Token
  | '+' => some .plus
  | '-' => some .minus
  | '*' => some .star
  | '/' => some .slash
  | '^' => some .caret
  | '&' => some .ampersand
  | ':' => some .colon
  | ',' => some .comma
  | '(' => some .leftParen
  | ')' => some .rightParen
  | '=' => some .equal
  | _ => none

def comparisonToken? : Char → List Char → Option (Token × Nat)
  | '<', '=' :: _ => some (.lessEqual, 1)
  | '<', '>' :: _ => some (.notEqual, 1)
  | '<', _ => some (.less, 0)
  | '>', '=' :: _ => some (.greaterEqual, 1)
  | '>', _ => some (.greater, 0)
  | _, _ => none

def startsNumber (c : Char) (rest : List Char) : Bool :=
  c.isDigit || (c == '.' && rest.head?.any Char.isDigit)

/-- The token that begins with `c`, and how many characters of `rest` belong to it. -/
def scan (offset : Nat) (c : Char) (rest : List Char) : Except ParseFault (Token × Nat) :=
  if let some t := symbolToken? c then .ok (t, 0)
  else if let some result := comparisonToken? c rest then .ok result
  else if c = '"' then
    match readQuoted rest with
    | some (s, n) => .ok (.text (String.ofList s), n)
    | none => .error (.openText offset)
  else if startsNumber c rest then
    let lexeme := numberLexeme (c :: rest)
    match Decimal.readFinite lexeme with
    | some x => .ok (.number x, lexeme.length - 1)
    | none => .error (.badNumber (String.ofList lexeme))
  else if c = '#' then
    let tail := rest.takeWhile isErrorChar
    match ErrorCode.read (String.ofList (c :: tail)) with
    | some code => .ok (.error code, tail.length)
    | none => .error (.badErrorCode (String.ofList (c :: tail)))
  else if c.isAlpha || c == '_' || c == '$' then
    let tail := rest.takeWhile isWordChar
    .ok (wordToken (c :: tail) (rest.drop tail.length), tail.length)
  else .error (.unexpectedChar c offset)

def tokens (offset : Nat) (cs : List Char) : List Token × Option ParseFault :=
  match h : cs.dropWhile Text.isBlank with
  | [] => ([], none)
  | c :: rest =>
    let start := offset + byteLength (cs.takeWhile Text.isBlank)
    match scan start c rest with
    | .error fault => ([], some fault)
    | .ok (t, n) =>
      have := Text.length_sub_lt_of_dropWhile h n
      let (ts, fault) := tokens (start + byteLength (c :: rest.take n)) (rest.drop n)
      (t :: ts, fault)
termination_by cs.length

end Spreadsheet.Lexer
