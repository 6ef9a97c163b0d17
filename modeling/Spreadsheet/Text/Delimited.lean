namespace Spreadsheet.Text

def needsQuotes (delimiter : Char) (field : List Char) : Bool :=
  field.any fun c => c == delimiter || c == '"' || c == '\n' || c == '\r'

def doubleQuotes (field : List Char) : List Char :=
  '"' :: field.flatMap (fun c => if c = '"' then ['"', '"'] else [c]) ++ ['"']

def writeField (delimiter : Char) (field : List Char) : List Char :=
  if needsQuotes delimiter field then doubleQuotes field else field

def writeFields (delimiter : Char) : List (List Char) → List Char
  | [] => []
  | [field] => writeField delimiter field
  | field :: rest => writeField delimiter field ++ delimiter :: writeFields delimiter rest

def writeLines (delimiter : Char) (lines : List (List (List Char))) : List Char :=
  lines.flatMap fun fields => writeFields delimiter fields ++ ['\n']

end Spreadsheet.Text
