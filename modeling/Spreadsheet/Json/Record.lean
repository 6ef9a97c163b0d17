import Spreadsheet.Json.Basic

namespace Spreadsheet.Json

def record (fields : List (String × Json)) : Json :=
  .object (fields.map fun (key, value) => (some key, value))

def natural? (bound : Nat) : Json → Option Nat
  | natural n => if n < bound then some n else none
  | _ => none

def text? : Json → Option String
  | text s => s
  | _ => none

def list? {α : Type} (item? : Json → Option α) : Json → Option (List α)
  | array items => items.mapM item?
  | _ => none

/-- The value of a key, if there is one; a key must not have two. -/
def valueAt? (fields : List (String × Json)) (key : String) : Option (Option Json) :=
  match fields.filter fun field => field.1 == key with
  | [] => some none
  | [field] => some (some field.2)
  | _ => none

def fields? (keys : List String) : Json → Option (List (Option Json))
  | array items =>
    if keys.length < items.length then none
    else some (items.map some ++ List.replicate (keys.length - items.length) none)
  | object fields => do
    let fields ← fields.mapM fun (key, value) => key.map fun key => (key, value)
    keys.mapM (valueAt? fields)
  | _ => none

def withDefault {α : Type} (default : α) (read : Json → Option α) : Option Json → Option α
  | none => some default
  | some value => read value

end Spreadsheet.Json
