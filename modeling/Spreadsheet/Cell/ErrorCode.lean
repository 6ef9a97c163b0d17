import Spreadsheet.Text.Case

namespace Spreadsheet

inductive ErrorCode
  | malformed
  | divideByZero
  | circular
  | brokenReference
  | wrongType
  | unknownName
  | badNumber
  | notAvailable
deriving DecidableEq, Inhabited

namespace ErrorCode

def all : List ErrorCode :=
  [malformed, divideByZero, circular, brokenReference, wrongType, unknownName, badNumber,
    notAvailable]

def write : ErrorCode → String
  | malformed => "#ERROR!"
  | divideByZero => "#DIV/0!"
  | circular => "#CIRC!"
  | brokenReference => "#REF!"
  | wrongType => "#VALUE!"
  | unknownName => "#NAME?"
  | badNumber => "#NUM!"
  | notAvailable => "#N/A"

def read (s : String) : Option ErrorCode :=
  all.find? fun code => Text.sameIgnoringCase code.write s

end ErrorCode

end Spreadsheet
