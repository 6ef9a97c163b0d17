import Spreadsheet.Json.Basic
import Spreadsheet.Text.Runs

namespace Spreadsheet

inductive JsonToken
  | openBrace | closeBrace | openBracket | closeBracket | colon | comma
  | null
  | boolean (b : Bool)
  | natural (n : Nat)
  | otherNumber
  | text (s : Option String)

namespace JsonToken

def isBlank (c : Char) : Bool := c == ' ' || c == '\n' || c == '\r' || c == '\t'

def unescape? : Char → Option Char
  | '"' => some '"'
  | '\\' => some '\\'
  | '/' => some '/'
  | 'b' => some '\x08'
  | 'f' => some '\x0c'
  | 'n' => some '\n'
  | 'r' => some '\r'
  | 't' => some '\t'
  | _ => none

def hexValue? (c : Char) : Option Nat :=
  if c.isDigit then some (c.toNat - 48)
  else if 'a' ≤ c ∧ c ≤ 'f' then some (c.toNat - 87)
  else if 'A' ≤ c ∧ c ≤ 'F' then some (c.toNat - 55)
  else none

def hexUnit? (a b c d : Char) : Option Nat := do
  let a ← hexValue? a
  let b ← hexValue? b
  let c ← hexValue? c
  let d ← hexValue? d
  return ((a * 16 + b) * 16 + c) * 16 + d

/-- Reads behind an opening quote up to the closing one: the code points and escaped units, and how
many characters were read. Control characters do not stand for themselves. -/
def readUnits : List Char → Option (List Nat × Nat)
  | [] => none
  | '\\' :: 'u' :: a :: b :: c :: d :: rest => do
    let unit ← hexUnit? a b c d
    let (units, n) ← readUnits rest
    return (unit :: units, n + 6)
  | '\\' :: e :: rest => do
    let c ← unescape? e
    let (units, n) ← readUnits rest
    return (c.toNat :: units, n + 2)
  | c :: rest =>
    if c = '"' then some ([], 1)
    else if c = '\\' ∨ c.toNat < 0x20 then none
    else do
      let (units, n) ← readUnits rest
      return (c.toNat :: units, n + 1)

def isHighSurrogate (n : Nat) : Bool := 0xd800 ≤ n && n < 0xdc00

def isLowSurrogate (n : Nat) : Bool := 0xdc00 ≤ n && n < 0xe000

/-- The characters of some units. Half of a surrogate pair stands for none. -/
def joinUnits : List Nat → Option (List Char)
  | [] => some []
  | high :: rest =>
    if isHighSurrogate high then
      match rest with
      | low :: rest =>
        if isLowSurrogate low then
          (joinUnits rest).map
            (Char.ofNat (0x10000 + (high - 0xd800) * 0x400 + (low - 0xdc00)) :: ·)
        else none
      | [] => none
    else if isLowSurrogate high then none
    else (joinUnits rest).map (Char.ofNat high :: ·)

def fractionLexeme : List Char → List Char
  | '.' :: rest => if rest.head?.any Char.isDigit then '.' :: rest.takeWhile Char.isDigit else []
  | _ => []

def exponentLexeme : List Char → List Char
  | e :: rest =>
    let sign := match rest with
      | '+' :: _ => ['+']
      | '-' :: _ => ['-']
      | _ => []
    let digits := (rest.drop sign.length).takeWhile Char.isDigit
    if (e = 'e' ∨ e = 'E') ∧ digits ≠ [] then e :: sign ++ digits else []
  | [] => []

def wholeLexeme : List Char → List Char
  | '0' :: _ => ['0']
  | cs => cs.takeWhile Char.isDigit

def naturalBound : Nat := UInt64.size

def scanNumber (cs : List Char) : Option (JsonToken × Nat) :=
  let negative := cs.head? == some '-'
  let sign := if negative then 1 else 0
  let whole := wholeLexeme (cs.drop sign)
  let rest := cs.drop (sign + whole.length)
  let fraction := fractionLexeme rest
  let exponent := exponentLexeme (rest.drop fraction.length)
  let value := Nat.ofDigitChars 10 whole 0
  if whole = [] then none
  else if negative ∨ fraction ≠ [] ∨ exponent ≠ [] ∨ naturalBound ≤ value then
    some (.otherNumber, sign + whole.length + fraction.length + exponent.length)
  else some (.natural value, whole.length)

def symbol? : Char → Option JsonToken
  | '\x7b' => some .openBrace
  | '\x7d' => some .closeBrace
  | '[' => some .openBracket
  | ']' => some .closeBracket
  | ':' => some .colon
  | ',' => some .comma
  | _ => none

def words : List (String × JsonToken) :=
  [("null", .null), ("true", .boolean true), ("false", .boolean false)]

def scan (c : Char) (rest : List Char) : Option (JsonToken × Nat) :=
  if let some t := symbol? c then some (t, 0)
  else if c = '"' then
    (readUnits rest).map fun (units, n) => (.text ((joinUnits units).map String.ofList), n)
  else if c = '-' ∨ c.isDigit then
    (scanNumber (c :: rest)).map fun (t, n) => (t, n - 1)
  else
    (words.find? fun (word, _) => word.toList.isPrefixOf (c :: rest)).map
      fun (word, t) => (t, word.length - 1)

def tokens (cs : List Char) : Option (List JsonToken) :=
  match h : cs.dropWhile isBlank with
  | [] => some []
  | c :: rest =>
    match scan c rest with
    | none => none
    | some (t, n) =>
      have := Text.length_sub_lt_of_dropWhile h n
      (tokens (rest.drop n)).map (t :: ·)
termination_by cs.length

end JsonToken

end Spreadsheet
