import Spreadsheet.Grid.Position

namespace Spreadsheet

inductive AddressFault
  | empty
  | noLetters
  | badLetter (c : Char)
  | columnTooFar (letters : String)
  | noColumn (text : String)
  | noRow (text : String)
  | badRow (text : String)
  | rowZero (text : String)
  | rowTooFar (row : Nat) (text : String)
deriving DecidableEq

namespace AddressFault

def message : AddressFault → String
  | empty => "empty address"
  | noLetters => "empty column letters"
  | badLetter c => "invalid column letter '" ++ c.toString ++ "'"
  | columnTooFar letters => "column '" ++ letters ++ "' exceeds the addressable columns"
  | noColumn text => "no column letters in '" ++ text ++ "'"
  | noRow text => "no row number in '" ++ text ++ "'"
  | badRow text => "invalid row number in '" ++ text ++ "'"
  | rowZero text => "row number must be >= 1 in '" ++ text ++ "'"
  | rowTooFar row text =>
    "row number " ++ toString row ++ " exceeds " ++ toString maxRows ++ " in '" ++ text ++ "'"

end AddressFault

def letterOf (n : Nat) : Char := Char.ofNat (n + 65)

def letterValue (c : Char) : Nat := c.toUpper.toNat - 64

def lettersOfCount (n : Nat) : List Char :=
  if n = 0 then [] else lettersOfCount ((n - 1) / 26) ++ [letterOf ((n - 1) % 26)]
termination_by n
decreasing_by omega

def columnLetters (column : Nat) : List Char := lettersOfCount (column + 1)

/-- Reads letters on top of the count of those before them. The first character that is no letter,
or that leads beyond the last column, ends the reading. -/
def countLetters (letters : List Char) (count : Nat) : List Char → Except AddressFault Nat
  | [] => .ok count
  | c :: rest =>
    if ¬ c.isAlpha then .error (.badLetter c)
    else
      let count := count * 26 + letterValue c
      if maxColumns < count then .error (.columnTooFar (String.ofList letters))
      else countLetters letters count rest

def columnIndex (letters : List Char) : Except AddressFault Nat :=
  if letters = [] then .error .noLetters
  else (countLetters letters 0 letters).map (· - 1)

end Spreadsheet
