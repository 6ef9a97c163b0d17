namespace Spreadsheet

inductive Json
  | null
  | boolean (b : Bool)
  | natural (n : Nat)
  /-- A number that is negative, has a fraction or an exponent, or is beyond 64 bits. -/
  | otherNumber
  /-- A text, without content if its escapes make up no characters. -/
  | text (s : Option String)
  | array (items : List Json)
  | object (fields : List (Option String × Json))
deriving Inhabited

namespace Json

def hexDigit (n : Nat) : Char := Nat.digitChar n

def escapeChar (c : Char) : List Char :=
  if c = '"' ∨ c = '\\' then ['\\', c]
  else if c = '\n' then ['\\', 'n']
  else if c = '\r' then ['\\', 'r']
  else if c = '\t' then ['\\', 't']
  else if c = '\x08' then ['\\', 'b']
  else if c = '\x0c' then ['\\', 'f']
  else if c.toNat < 0x20 then
    ['\\', 'u', '0', '0', hexDigit (c.toNat / 16), hexDigit (c.toNat % 16)]
  else [c]

def quote (s : Option String) : List Char :=
  '"' :: (s.getD "").toList.flatMap escapeChar ++ ['"']

def newline (depth : Nat) : List Char := '\n' :: List.replicate (2 * depth) ' '

def scalar : Json → List Char
  | boolean b => (if b then "true" else "false").toList
  | natural n => Nat.toDigits 10 n
  | text s => quote s
  | _ => "null".toList

mutual

def prettyAt (depth : Nat) : Json → List Char
  | array [] => "[]".toList
  | array (item :: rest) =>
    '[' :: newline (depth + 1) ++ prettyAt (depth + 1) item ++
      prettyItems (depth + 1) rest ++ newline depth ++ [']']
  | object [] => ['\x7b', '\x7d']
  | object ((key, value) :: rest) =>
    '\x7b' :: newline (depth + 1) ++ quote key ++ ": ".toList ++ prettyAt (depth + 1) value ++
      prettyFields (depth + 1) rest ++ newline depth ++ ['\x7d']
  | j => scalar j

def prettyItems (depth : Nat) : List Json → List Char
  | [] => []
  | item :: rest => ',' :: newline depth ++ prettyAt depth item ++ prettyItems depth rest

def prettyFields (depth : Nat) : List (Option String × Json) → List Char
  | [] => []
  | (key, value) :: rest =>
    ',' :: newline depth ++ quote key ++ ": ".toList ++ prettyAt depth value ++
      prettyFields depth rest

end

def pretty (j : Json) : String := String.ofList (j.prettyAt 0)

mutual

def compactChars : Json → List Char
  | array [] => "[]".toList
  | array (item :: rest) => '[' :: compactChars item ++ compactItems rest ++ [']']
  | object [] => ['\x7b', '\x7d']
  | object ((key, value) :: rest) =>
    '\x7b' :: quote key ++ ':' :: compactChars value ++ compactFields rest ++ ['\x7d']
  | j => scalar j

def compactItems : List Json → List Char
  | [] => []
  | item :: rest => ',' :: compactChars item ++ compactItems rest

def compactFields : List (Option String × Json) → List Char
  | [] => []
  | (key, value) :: rest =>
    ',' :: quote key ++ ':' :: compactChars value ++ compactFields rest

end

def compact (j : Json) : String := String.ofList j.compactChars

end Json

end Spreadsheet
