import Spreadsheet.CommandLine.Arguments
import Spreadsheet.Session.Stored
import Spreadsheet.Text.Delimited

namespace Spreadsheet.CommandLine

inductive Failure
  | unreadable (path cause : String)
  | unparsable (path : String)
  | refused (path : String) (cause : GridError)
  | noMatrices
  | noMatrix (name : String) (cause : GridError)
  | badReference (text : String) (cause : GridError)
  | badEdit (matrix cell : String) (cause : GridError)
  | unwritable (path cause : String)

namespace Failure

def context : Failure → String
  | unreadable path _ => "Failed to read '" ++ path ++ "'"
  | unparsable path => "Failed to parse '" ++ path ++ "'"
  | refused path _ => "Failed to load '" ++ path ++ "'"
  | noMatrices => "Snapshot contains no matrices"
  | noMatrix name _ => "Matrix '" ++ name ++ "' not found"
  | badReference text _ => "Invalid cell reference '" ++ text ++ "'"
  | badEdit matrix cell _ => "Failed to set " ++ matrix ++ "!" ++ cell
  | unwritable path _ => "Failed to write '" ++ path ++ "'"

def cause? : Failure → Option String
  | unreadable _ cause => some cause
  | unparsable _ => some "Invalid snapshot: not a stored snapshot"
  | refused _ cause => some cause.message
  | noMatrices => none
  | noMatrix _ cause => some cause.message
  | badReference _ cause => some cause.message
  | badEdit _ _ cause => some cause.message
  | unwritable _ cause => some cause

def indent (text : String) : String :=
  String.ofList ("    ".toList ++
    text.toList.flatMap fun c => if c = '\n' then '\n' :: "    ".toList else [c])

def message (f : Failure) : String :=
  let cause := f.cause?.elim "" fun cause => "\n\nCaused by:\n" ++ indent cause
  "Error: " ++ f.context ++ cause ++ "\n"

end Failure

structure Report where
  code : Nat := 0
  out : String := ""
  err : String := ""

def Failure.report (f : Failure) : Report := { code := 1, err := f.message }

inductive Plan
  | print (report : Report)
  /-- Print `before` as a warning, write a file, and print `after` likewise once it is written. -/
  | write (before path text after : String)

def load (limits : Limits) (path text : String) : Attempt Failure Session := do
  let some snapshot := SessionSnapshot.read text | .error (.fault (.unparsable path))
  (Session.ofSnapshot snapshot { limits }).mapFault (.refused path)

def pickMatrix (s : Session) : Option String → Except Failure Sheet
  | some name => (s.sheet name).mapError (.noMatrix name)
  | none => match s.sheets with
    | sheet :: _ => .ok sheet
    | [] => .error .noMatrices

def displayed (sheet : Sheet) : Option (List (List (List Char))) :=
  (List.range sheet.matrix.rows).mapM fun row =>
    (List.range sheet.matrix.columns).mapM fun column =>
      (sheet.view ⟨row, column⟩).map fun view => view.value.display.toList

def eval (s : Session) (matrix output : Option String) (delimiter : Char) :
    Attempt Failure Plan := do
  let sheet ← .ofExcept (pickMatrix s matrix)
  if sheet.matrix.rows = 0 ∨ sheet.matrix.columns = 0 then
    return .print { err := "Warning: matrix '" ++ sheet.name ++ "' is empty\n" }
  else
    let grid ← .ofOption (displayed sheet)
    let text := String.ofList (Text.writeLines delimiter grid)
    match output with
    | some path =>
      return .write "" path text
        ("Wrote " ++ toString sheet.matrix.rows ++ " rows to '" ++ path ++ "'\n")
    | none => return .print { out := text }

def describeCell (matrix : String) (ref : CellRef) (view : CellView) : String :=
  let diagnostic := view.diagnostic.elim "" fun d => " (" ++ d ++ ")"
  matrix ++ "!" ++ String.ofList ref.write ++ " = " ++ view.value.display ++ diagnostic ++ "\n"

def set (s : Session) (input cell raw : String) (matrix output : Option String) :
    Attempt Failure Plan := do
  let name := (← .ofExcept (pickMatrix s matrix)).name
  let ref ← .ofExcept <|
    (CellRef.parse cell.toList).mapError fun fault => .badReference cell (.badAddress fault)
  let (s, view, stats) ← (s.setCell name ref.toPosition raw false).mapFault (.badEdit name cell)
  let counts := "Recalculated " ++ toString stats.evaluated ++ " cells (" ++
    toString stats.errors ++ " errors)\n"
  return .write (describeCell name ref view ++ counts) (output.getD input)
    (s.snapshot.write ++ "\n") ""

def describeSheet (i : Nat) (sheet : Sheet) : String :=
  let circular := sheet.circularCells.map Position.write
  "\n  Matrix " ++ toString i ++ ": \"" ++ sheet.name ++ "\"\n" ++
    "    Dimensions: " ++ toString sheet.matrix.rows ++ " rows x " ++
    toString sheet.matrix.columns ++ " columns\n" ++
    "    Formulas: " ++ toString sheet.matrix.formulaCells.length ++ "\n" ++
    "    Errors: " ++ toString sheet.errorCount ++ "\n" ++
    (if circular.isEmpty then "" else "    Circular: " ++ ", ".intercalate circular ++ "\n")

def info (s : Session) (input : String) : Plan :=
  .print { out :=
    "File: " ++ input ++ "\nMatrices: " ++ toString s.sheets.length ++ "\n" ++
      String.join (s.sheets.zipIdx.map fun (sheet, i) => describeSheet i sheet) }

def Command.plan (c : Command) (s : Session) (input : String) : Attempt Failure Plan :=
  match c with
  | eval matrix output delimiter => CommandLine.eval s matrix output delimiter
  | set cell raw matrix output => CommandLine.set s input cell raw matrix output
  | info => .ok (CommandLine.info s input)

def Invocation.plan (i : Invocation) (file : Except String String) : Option Plan :=
  let planned : Attempt Failure Plan := do
    let text ← .ofExcept (file.mapError (.unreadable i.input))
    i.command.plan (← load i.limits i.input text) i.input
  match planned with
  | .ok plan => some plan
  | .error (.fault failure) => some (.print failure.report)
  | .error .crash => none

def usage : String :=
  "Evaluate and edit price matrix snapshots\n\n" ++
    "Usage: pmx [OPTIONS] <COMMAND>\n\n" ++
    "Commands:\n" ++
    "  eval  Print the computed values of a matrix as delimited text\n" ++
    "  set   Write one cell and save the snapshot\n" ++
    "  info  Show the matrices of a snapshot\n\n" ++
    "Options:\n" ++
    "      --max-rows <MAX_ROWS>  Maximum number of rows per matrix\n" ++
    "      --max-cols <MAX_COLS>  Maximum number of columns per matrix\n" ++
    "  -h, --help                 Print help\n" ++
    "  -V, --version              Print version\n"

def Stop.report : Stop → Report
  | misuse => { code := 2, err := usage }
  | help => { out := usage }
  | version => { out := "pmx 0.1.0\n" }

end Spreadsheet.CommandLine
