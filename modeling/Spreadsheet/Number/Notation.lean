import Spreadsheet.Number.Shortest

namespace Spreadsheet.Decimal

def positional (d : Nat) (g : Int) : List Char :=
  if 0 ≤ g then digitsOf d ++ List.replicate g.toNat '0'
  else
    let places := (-g).toNat
    let digits := digitsOf d
    let padded := List.replicate (places + 1 - digits.length) '0' ++ digits
    let cut := padded.length - places
    padded.take cut ++ '.' :: padded.drop cut

def exponential (d : Nat) (g : Int) : List Char :=
  let digits := digitsOf d
  let exponent := g + (digits.length - 1 : Nat)
  let fraction := if digits.length = 1 then [] else '.' :: digits.drop 1
  let sign := if exponent < 0 then ['-'] else []
  digits.take 1 ++ fraction ++ 'e' :: sign ++ digitsOf exponent.natAbs

def signText (x : Float) : List Char := if Binary64.isNegative x then ['-'] else []

def writeSigned (x : Float) : String :=
  if x.isNaN then "NaN"
  else if x.isInf then String.ofList (signText x ++ "inf".toList)
  else if x == 0 then String.ofList (signText x ++ ['0'])
  else
    let (d, g) := shortest x
    String.ofList (signText x ++ positional d g)

def write (x : Float) : String := if x == 0 then "0" else writeSigned x

/-- The text of a number inside a message: positional from `1e-4` up to below `1e16`, and then with
a point; exponential outside. -/
def writeTagged (x : Float) : String :=
  if x.isNaN then "NaN"
  else if x.isInf then String.ofList (signText x ++ "inf".toList)
  else if x == 0 then String.ofList (signText x ++ "0.0".toList)
  else
    let (d, g) := shortest x
    let body :=
      if x.abs < 1e-4 || 1e16 ≤ x.abs then exponential d g
      else
        let plain := positional d g
        if plain.contains '.' then plain else plain ++ ".0".toList
    String.ofList (signText x ++ body)

structure Numeral where
  digits : Nat
  exponent : Int

def readExponent : List Char → Option Int
  | [] => some 0
  | e :: rest =>
    if e = 'e' ∨ e = 'E' then
      let (negative, digits) := match rest with
        | '-' :: digits => (true, digits)
        | '+' :: digits => (false, digits)
        | digits => (false, digits)
      if digits ≠ [] ∧ digits.all Char.isDigit then
        let n := Nat.ofDigitChars 10 digits 0
        some (if negative then -(n : Int) else n)
      else none
    else none

def readNumeral (cs : List Char) : Option Numeral :=
  let whole := cs.takeWhile Char.isDigit
  let rest := cs.dropWhile Char.isDigit
  let (fraction, rest) := match rest with
    | '.' :: after => (after.takeWhile Char.isDigit, after.dropWhile Char.isDigit)
    | _ => ([], rest)
  if whole = [] ∧ fraction = [] then none
  else
    (readExponent rest).map fun e =>
      ⟨Nat.ofDigitChars 10 (whole ++ fraction) 0, e - fraction.length⟩

/-- The number nearest to a numeral. Far outside the range of exponents it is infinite or zero
whatever the digits are. -/
def Numeral.toFloat (n : Numeral) : Float :=
  let size := n.exponent + digitCount n.digits
  if n.digits = 0 ∨ size < -400 then 0
  else if 400 < size then 1 / 0
  else Float.ofScientific n.digits (n.exponent < 0) n.exponent.natAbs

def readUnsigned (cs : List Char) : Option Float :=
  let word := String.ofList (cs.map Char.toLower)
  if word = "inf" ∨ word = "infinity" then some (1 / 0)
  else if word = "nan" then some (0 / 0)
  else (readNumeral cs).map Numeral.toFloat

def read (cs : List Char) : Option Float :=
  match cs with
  | '-' :: rest => (readUnsigned rest).map Float.neg
  | '+' :: rest => readUnsigned rest
  | _ => readUnsigned cs

def readFinite (cs : List Char) : Option Float :=
  match cs with
  | c :: _ =>
    if c.isDigit ∨ c = '.' ∨ c = '+' ∨ c = '-' then (read cs).filter Float.isFinite else none
  | [] => none

end Spreadsheet.Decimal
