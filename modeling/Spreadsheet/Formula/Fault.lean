import Spreadsheet.Formula.Builtin
import Spreadsheet.Formula.Expr
import Spreadsheet.Formula.Token

namespace Spreadsheet

inductive ParseFault
  | noEqualsSign
  | empty
  | unexpectedChar (c : Char) (offset : Nat)
  | openText (offset : Nat)
  | badNumber (text : String)
  | badErrorCode (text : String)
  | trailing (t : Token)
  | strayParen
  | unclosedParen (rest : List Token)
  | unknownName (name : String)
  | unexpectedEnd
  | unexpectedToken (t : Token)
  | rangeStart (e : Expr)
  | rangeEnd (rest : List Token)

inductive FormulaFault
  | unparsable (fault : ParseFault)
  | unknownFunction (name : String)
  | argumentCount (f : Builtin) (actual : Nat)
  | badReference (text : String) (fault : AddressFault)

namespace ParseFault

def message : ParseFault → String
  | noEqualsSign => "Formula must start with '='"
  | empty => "Empty formula"
  | unexpectedChar c offset =>
    "Unexpected character '" ++ c.toString ++ "' at position " ++ toString offset
  | openText offset => "Unterminated string starting at position " ++ toString offset
  | badNumber text => "Invalid number '" ++ text ++ "'"
  | badErrorCode text => "Unknown error literal '" ++ text ++ "'"
  | trailing t => "Unexpected " ++ t.describe ++ " after expression"
  | strayParen => "Unbalanced parentheses: unexpected ')'"
  | unclosedParen rest => "Unbalanced parentheses: expected ')', got " ++ Token.describeHead rest
  | unknownName name => "Unknown name '" ++ name ++ "'"
  | unexpectedEnd => "Unexpected end of formula"
  | unexpectedToken t => "Unexpected token: " ++ t.describe
  | rangeStart e => "Range must start with a cell reference, got " ++ e.write
  | rangeEnd rest => "Range must end with a cell reference, got " ++ Token.describeHead rest

end ParseFault

namespace FormulaFault

def message : FormulaFault → String
  | unparsable fault => "Parse error: " ++ fault.message
  | unknownFunction name => "Unknown function: " ++ name
  | argumentCount f actual =>
    "Wrong number of arguments for " ++ f.name ++ ": expected " ++ f.arity.describe ++ ", got " ++
      toString actual
  | badReference text fault =>
    "Invalid reference: '" ++ text ++ "': Invalid cell address: " ++ fault.message

def code : FormulaFault → ErrorCode
  | unparsable _ => .malformed
  | unknownFunction _ => .unknownName
  | argumentCount .. => .malformed
  | badReference .. => .brokenReference

end FormulaFault

end Spreadsheet
