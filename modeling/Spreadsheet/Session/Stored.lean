import Spreadsheet.Json.Parser
import Spreadsheet.Json.Record
import Spreadsheet.Session.Basic

namespace Spreadsheet

namespace MatrixSnapshot

def cellToJson (cell : Position × String) : Json :=
  .record [("row", .natural cell.1.row), ("col", .natural cell.1.column), ("raw", .text cell.2)]

def cellOfJson? (j : Json) : Option (Position × String) := do
  let [row, column, raw] ← j.fields? ["row", "col", "raw"] | none
  let row ← row.bind (Json.natural? rowWordBound)
  let column ← column.bind (Json.natural? columnWordBound)
  let raw ← raw.bind Json.text?
  return (⟨row, column⟩, raw)

def positionToJson (p : Position) : Json := .array [.natural p.row, .natural p.column]

def positionOfJson? : Json → Option Position
  | .array [row, column] => do
    let row ← row.natural? rowWordBound
    let column ← column.natural? columnWordBound
    return ⟨row, column⟩
  | _ => none

def toJson (m : MatrixSnapshot) : Json :=
  let circular :=
    if m.circular.isEmpty then [] else [("circular", .array (m.circular.map positionToJson))]
  .record ([("name", .text m.name), ("rows", .natural m.rows), ("cols", .natural m.columns),
    ("cells", .array (m.cells.map cellToJson))] ++ circular)

def ofJson? (j : Json) : Option MatrixSnapshot := do
  let [name, rows, columns, cells, circular] ←
    j.fields? ["name", "rows", "cols", "cells", "circular"] | none
  let name ← name.bind Json.text?
  let rows ← rows.bind (Json.natural? rowWordBound)
  let columns ← columns.bind (Json.natural? columnWordBound)
  let cells ← Json.withDefault [] (Json.list? cellOfJson?) cells
  let circular ← Json.withDefault [] (Json.list? positionOfJson?) circular
  return ⟨name, rows, columns, cells, circular⟩

end MatrixSnapshot

namespace SessionSnapshot

def toJson (s : SessionSnapshot) : Json :=
  .record [("matrices", .array (s.matrices.map MatrixSnapshot.toJson))]

def ofJson? (j : Json) : Option SessionSnapshot := do
  let [matrices] ← j.fields? ["matrices"] | none
  let matrices ← matrices.bind (Json.list? MatrixSnapshot.ofJson?)
  return ⟨matrices⟩

def write (s : SessionSnapshot) : String := s.toJson.pretty

def read (text : String) : Option SessionSnapshot := (Json.parse text).bind ofJson?

end SessionSnapshot

namespace Limits

def toJson (limits : Limits) : Json :=
  .record [("max_rows", .natural limits.rows), ("max_cols", .natural limits.columns)]

def ofJson? (j : Json) : Option Limits := do
  let [rows, columns] ← j.fields? ["max_rows", "max_cols"] | none
  let default : Limits := {}
  let rows ← Json.withDefault default.rows (Json.natural? rowWordBound) rows
  let columns ← Json.withDefault default.columns (Json.natural? columnWordBound) columns
  return ⟨rows, columns⟩

end Limits

namespace Options

def toJson (options : Options) : Json :=
  .record [("limits", options.limits.toJson), ("undo_limit", .natural options.undoLimit)]

def ofJson? (j : Json) : Option Options := do
  let [limits, undoLimit] ← j.fields? ["limits", "undo_limit"] | none
  let default : Options := {}
  let limits ← Json.withDefault default.limits Limits.ofJson? limits
  let undoLimit ←
    Json.withDefault default.undoLimit (Json.natural? JsonToken.naturalBound) undoLimit
  return ⟨limits, undoLimit⟩

def write (options : Options) : String := options.toJson.compact

def read (text : String) : Option Options := (Json.parse text).bind ofJson?

end Options

end Spreadsheet
