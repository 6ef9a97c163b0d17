import Spreadsheet.Json.Token

namespace Spreadsheet.Json

abbrev Parsed (α : Type) (ts : List JsonToken) : Type :=
  Option (α × { rest : List JsonToken // rest.length < ts.length })

mutual

def parseValue (ts : List JsonToken) : Parsed Json ts :=
  match ts with
  | .null :: rest => some (.null, ⟨rest, Nat.lt_succ_self _⟩)
  | .boolean b :: rest => some (.boolean b, ⟨rest, Nat.lt_succ_self _⟩)
  | .natural n :: rest => some (.natural n, ⟨rest, Nat.lt_succ_self _⟩)
  | .otherNumber :: rest => some (.otherNumber, ⟨rest, Nat.lt_succ_self _⟩)
  | .text s :: rest => some (.text s, ⟨rest, Nat.lt_succ_self _⟩)
  | .openBracket :: .closeBracket :: rest =>
    some (.array [], ⟨rest, by simp only [List.length_cons]; omega⟩)
  | .openBracket :: rest => do
    let (item, ⟨rest', h⟩) ← parseValue rest
    let (items, ⟨rest'', h'⟩) ← parseItems rest'
    return (.array (item :: items), ⟨rest'', by simp only [List.length_cons]; omega⟩)
  | .openBrace :: .closeBrace :: rest =>
    some (.object [], ⟨rest, by simp only [List.length_cons]; omega⟩)
  | .openBrace :: rest => do
    let (field, ⟨rest', h⟩) ← parseField rest
    let (fields, ⟨rest'', h'⟩) ← parseFields rest'
    return (.object (field :: fields), ⟨rest'', by simp only [List.length_cons]; omega⟩)
  | _ => none
termination_by (ts.length, 0)

def parseItems (ts : List JsonToken) : Parsed (List Json) ts :=
  match ts with
  | .closeBracket :: rest => some ([], ⟨rest, Nat.lt_succ_self _⟩)
  | .comma :: rest => do
    let (item, ⟨rest', h⟩) ← parseValue rest
    let (items, ⟨rest'', h'⟩) ← parseItems rest'
    return (item :: items, ⟨rest'', by simp only [List.length_cons]; omega⟩)
  | _ => none
termination_by (ts.length, 0)

def parseField (ts : List JsonToken) : Parsed (Option String × Json) ts :=
  match ts with
  | .text key :: .colon :: rest => do
    let (value, ⟨rest', h⟩) ← parseValue rest
    return ((key, value), ⟨rest', by simp only [List.length_cons]; omega⟩)
  | _ => none
termination_by (ts.length, 1)

def parseFields (ts : List JsonToken) : Parsed (List (Option String × Json)) ts :=
  match ts with
  | .closeBrace :: rest => some ([], ⟨rest, Nat.lt_succ_self _⟩)
  | .comma :: rest => do
    let (field, ⟨rest', h⟩) ← parseField rest
    let (fields, ⟨rest'', h'⟩) ← parseFields rest'
    return (field :: fields, ⟨rest'', by simp only [List.length_cons]; omega⟩)
  | _ => none
termination_by (ts.length, 0)

end

def parse (text : String) : Option Json := do
  let ts ← JsonToken.tokens text.toList
  let (j, ⟨rest, _⟩) ← parseValue ts
  if rest.isEmpty then some j else none

end Spreadsheet.Json
