import Spreadsheet.Grid.Limits
import Spreadsheet.Grid.Position

/-!
# Arguments of the command line

Options that hold for every command may stand before the name of the command or behind it, where
they win. An option takes one value, given as the next argument or attached to it, and may be given
once on each side. Behind a double dash everything is a plain word.
-/

namespace Spreadsheet.CommandLine

inductive Command
  | eval (matrix output : Option String) (delimiter : Char)
  | set (cell raw : String) (matrix output : Option String)
  | info

structure Invocation where
  limits : Limits
  input : String
  command : Command

inductive Stop
  | misuse
  | help
  | version

inductive Flag
  | maxRows | maxColumns | matrix | output | delimiter
deriving DecidableEq

namespace Flag

def long : Flag → String
  | maxRows => "max-rows"
  | maxColumns => "max-cols"
  | matrix => "matrix"
  | output => "output"
  | delimiter => "delimiter"

def short? : Flag → Option Char
  | maxRows => none
  | maxColumns => none
  | matrix => some 'm'
  | output => some 'o'
  | delimiter => some 'd'

def common : List Flag := [maxRows, maxColumns]

end Flag

structure Settings where
  maxRows : Option Nat := none
  maxColumns : Option Nat := none
  matrix : Option String := none
  output : Option String := none
  delimiter : Option Char := none

def readNumber (bound : Nat) (value : String) : Option Nat :=
  let (negative, digits) := match value.toList with
    | '-' :: rest => (true, rest)
    | '+' :: rest => (false, rest)
    | cs => (false, cs)
  let n := Nat.ofDigitChars 10 digits 0
  if digits = [] ∨ ¬ digits.all Char.isDigit ∨ bound ≤ n ∨ (negative ∧ n ≠ 0) then none else some n

def readChar (value : String) : Option Char :=
  match value.toList with
  | [c] => some c
  | _ => none

def readPath (value : String) : Option String := if value = "" then none else some value

namespace Settings

def once {α : Type} (old new : Option α) : Except Stop (Option α) :=
  match old, new with
  | none, some a => .ok (some a)
  | _, _ => .error .misuse

def add (s : Settings) (flag : Flag) (value : String) : Except Stop Settings :=
  match flag with
  | .maxRows =>
    (once s.maxRows (readNumber rowWordBound value)).map fun v => { s with maxRows := v }
  | .maxColumns =>
    (once s.maxColumns (readNumber columnWordBound value)).map fun v => { s with maxColumns := v }
  | .matrix => (once s.matrix (some value)).map fun v => { s with matrix := v }
  | .output => (once s.output (readPath value)).map fun v => { s with output := v }
  | .delimiter => (once s.delimiter (readChar value)).map fun v => { s with delimiter := v }

def limits (inner outer : Settings) : Limits :=
  let default : Limits := {}
  { rows := (inner.maxRows <|> outer.maxRows).getD default.rows
    columns := (inner.maxColumns <|> outer.maxColumns).getD default.columns }

end Settings

inductive Argument
  | word (s : String)
  | endOfOptions
  | awaiting (flag : Flag)
  | attached (flag : Flag) (value : String)
  | stop (reason : Stop)

namespace Argument

def ofLong (flags : List Flag) (cs : List Char) : Argument :=
  let name := String.ofList (cs.takeWhile (· ≠ '='))
  match flags.find? (·.long == name), cs.dropWhile (· ≠ '=') with
  | some flag, _ :: value => attached flag (String.ofList value)
  | some flag, [] => awaiting flag
  | none, [] =>
    stop (if name = "help" then .help else if name = "version" then .version else .misuse)
  | none, _ => stop .misuse

def ofShort (flags : List Flag) (c : Char) (value : List Char) : Argument :=
  match flags.find? (·.short? == some c), value with
  | some flag, [] => awaiting flag
  | some flag, '=' :: value => attached flag (String.ofList value)
  | some flag, value => attached flag (String.ofList value)
  | none, _ => stop (if c = 'h' then .help else if c = 'V' then .version else .misuse)

def read (flags : List Flag) (arg : String) : Argument :=
  match arg.toList with
  | ['-', '-'] => endOfOptions
  | '-' :: '-' :: cs => ofLong flags cs
  | '-' :: c :: cs => ofShort flags c cs
  | _ => word arg

end Argument

def readUntilWord (s : Settings) : List String → Except Stop (Settings × String × List String)
  | [] => .error .misuse
  | arg :: rest =>
    match Argument.read Flag.common arg, rest with
    | .word name, rest => .ok (s, name, rest)
    | .attached flag value, rest => do readUntilWord (← s.add flag value) rest
    | .awaiting flag, value :: rest =>
      match Argument.read Flag.common value with
      | .word value => do readUntilWord (← s.add flag value) rest
      | _ => .error .misuse
    | .stop reason, _ => .error reason
    | _, _ => .error .misuse

def readAll (flags : List Flag) (s : Settings) : List String → Except Stop (Settings × List String)
  | [] => .ok (s, [])
  | arg :: rest =>
    match Argument.read flags arg, rest with
    | .word w, rest => (readAll flags s rest).map fun (s, words) => (s, w :: words)
    | .endOfOptions, rest => .ok (s, rest)
    | .attached flag value, rest => do readAll flags (← s.add flag value) rest
    | .awaiting flag, value :: rest =>
      match Argument.read flags value with
      | .word value => do readAll flags (← s.add flag value) rest
      | _ => .error .misuse
    | .awaiting _, [] => .error .misuse
    | .stop .version, _ => .error .misuse
    | .stop reason, _ => .error reason

def readCommand (outer : Settings) (name : String) (args : List String) :
    Except Stop Invocation :=
  match name with
  | "eval" => do
    let (s, words) ← readAll (.matrix :: .output :: .delimiter :: Flag.common) {} args
    match words.map readPath with
    | [some input] =>
      return ⟨s.limits outer, input, .eval s.matrix s.output (s.delimiter.getD ',')⟩
    | _ => .error .misuse
  | "set" => do
    let (s, words) ← readAll (.matrix :: .output :: Flag.common) {} args
    match words with
    | [path, cell, raw] =>
      match readPath path with
      | some input => return ⟨s.limits outer, input, .set cell raw s.matrix s.output⟩
      | none => .error .misuse
    | _ => .error .misuse
  | "info" => do
    let (s, words) ← readAll Flag.common {} args
    match words.map readPath with
    | [some input] => return ⟨s.limits outer, input, .info⟩
    | _ => .error .misuse
  | "help" => .error .help
  | _ => .error .misuse

def readArguments (args : List String) : Except Stop Invocation := do
  let (outer, name, rest) ← readUntilWord {} args
  readCommand outer name rest

end Spreadsheet.CommandLine
