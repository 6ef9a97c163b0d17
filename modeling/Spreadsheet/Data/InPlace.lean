import Spreadsheet.Data.Halt
import Spreadsheet.Grid.Fault

namespace Spreadsheet

abbrev InPlace (σ : Type) : Type → Type := ExceptT GridError (StateM σ)

namespace InPlace
variable {σ τ α : Type}

def on (work : InPlace σ α) (s : σ) : Except GridError α × σ := (ExceptT.run work).run s

def demand (x : Except GridError α) : InPlace σ α := ExceptT.mk (pure x)

def onPart (part : σ → τ) (put : σ → τ → σ) (work : InPlace τ α) : InPlace σ α :=
  ExceptT.mk fun s =>
    let (outcome, t) := work.on (part s)
    (outcome, put s t)

end InPlace

abbrev Execution (σ : Type) : Type → Type := ExceptT GridError (StateT σ Option)

namespace Execution
variable {σ τ α : Type}

def on (work : Execution σ α) (s : σ) : Option (Except GridError α × σ) := (ExceptT.run work).run s

def ofInPlace (work : InPlace σ α) : Execution σ α := ExceptT.mk fun s => some (work.on s)

def demand (x : Attempt GridError α) : Execution σ α := ExceptT.mk fun s =>
  match x with
  | .ok a => some (.ok a, s)
  | .error (.fault fault) => some (.error fault, s)
  | .error .crash => none

def onPart (part : σ → τ) (put : σ → τ → σ) (work : Execution τ α) : Execution σ α :=
  ExceptT.mk fun s => (work.on (part s)).map fun (outcome, t) => (outcome, put s t)

end Execution

end Spreadsheet
