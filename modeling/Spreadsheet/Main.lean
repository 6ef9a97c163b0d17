import Spreadsheet.CommandLine.Run

namespace Spreadsheet.CommandLine

def Report.print (report : Report) : IO UInt32 := do
  (← IO.getStdout).putStr report.out
  (← IO.getStderr).putStr report.err
  return report.code.toUInt32

def Plan.carryOut : Plan → IO UInt32
  | .print report => report.print
  | .write before path text after => do
    (← IO.getStderr).putStr before
    match ← (IO.FS.writeFile path text).toBaseIO with
    | .ok _ => Report.print { err := after }
    | .error e => (Failure.unwritable path (toString e)).report.print

end Spreadsheet.CommandLine

open Spreadsheet CommandLine

def main (args : List String) : IO UInt32 := do
  match readArguments args with
  | .error stop => stop.report.print
  | .ok invocation =>
    let file ← (IO.FS.readFile invocation.input).toBaseIO
    match invocation.plan (file.mapError toString) with
    | some plan => plan.carryOut
    | none => Report.print { code := 101, err := "Error: a formula has no value\n" }
