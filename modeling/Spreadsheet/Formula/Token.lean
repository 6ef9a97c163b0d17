import Spreadsheet.Cell.Value
import Spreadsheet.Text.Quoted

namespace Spreadsheet

inductive Token
  | number (x : Float)
  | text (s : String)
  | boolean (b : Bool)
  | error (code : ErrorCode)
  | name (s : String)
  | cell (s : String)
  | plus | minus | star | slash | caret | ampersand
  | equal | notEqual | less | lessEqual | greater | greaterEqual
  | colon | comma | leftParen | rightParen
deriving Inhabited

def ErrorCode.label : ErrorCode → String
  | malformed => "Parse"
  | divideByZero => "DivideByZero"
  | circular => "CircularReference"
  | brokenReference => "BrokenReference"
  | wrongType => "TypeMismatch"
  | unknownName => "UnknownFunction"
  | badNumber => "Num"
  | notAvailable => "NotAvailable"

namespace Token

def labelled (label payload : String) : String := label ++ "(" ++ payload ++ ")"

def describe : Token → String
  | number x => labelled "Number" (Decimal.writeTagged x)
  | text s => labelled "String" (Text.quoted s)
  | boolean b => labelled "Boolean" (if b then "true" else "false")
  | error code => labelled "Error" code.label
  | name s => labelled "Identifier" (Text.quoted s)
  | cell s => labelled "CellRef" (Text.quoted s)
  | plus => "Plus"
  | minus => "Minus"
  | star => "Star"
  | slash => "Slash"
  | caret => "Caret"
  | ampersand => "Ampersand"
  | equal => "Equal"
  | notEqual => "NotEqual"
  | less => "LessThan"
  | lessEqual => "LessEqual"
  | greater => "GreaterThan"
  | greaterEqual => "GreaterEqual"
  | colon => "Colon"
  | comma => "Comma"
  | leftParen => "LeftParen"
  | rightParen => "RightParen"

def describeHead : List Token → String
  | [] => "Eof"
  | t :: _ => t.describe

end Token

end Spreadsheet
