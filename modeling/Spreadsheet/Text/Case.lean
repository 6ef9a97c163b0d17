import Spreadsheet.Text.CaseTable
import Spreadsheet.Text.Runs

namespace Spreadsheet.Text

def shiftCase (runs : List CaseRun) (n : Nat) : Nat :=
  match runs.find? fun run => run.first ≤ n && n ≤ run.last && (n - run.first) % run.step == 0 with
  | some run => (n + run.shift).toNat
  | none => n

def isCased (c : Char) : Bool := inRuns casedRuns c

def isCaseIgnorable (c : Char) : Bool := inRuns caseIgnorableRuns c

def meetsCased (cs : List Char) : Bool :=
  match cs.dropWhile isCaseIgnorable with
  | c :: _ => isCased c
  | [] => false

/-- A capital sigma ends a word when a cased letter stands before it and none follows. -/
def isFinalSigma (before after : List Char) : Bool := meetsCased before && !meetsCased after

def lowerChar (c : Char) : List Char :=
  if c.toNat < 0x80 then [c.toLower]
  else if c = '\u0130' then ['i', '\u0307']
  else [Char.ofNat (shiftCase lowerRuns c.toNat)]

def upperChar (c : Char) : List Char :=
  if c.toNat < 0x80 then [c.toUpper]
  else match upperExpansions.lookup c.toNat with
    | some image => image.map Char.ofNat
    | none => [Char.ofNat (shiftCase upperRuns c.toNat)]

def lowerAfter (before : List Char) : List Char → List Char
  | [] => []
  | c :: rest =>
    let image :=
      if c = '\u03a3' then [if isFinalSigma before rest then '\u03c2' else '\u03c3']
      else lowerChar c
    image ++ lowerAfter (c :: before) rest

def lower (s : String) : String := String.ofList (lowerAfter [] s.toList)

def upper (s : String) : String := String.ofList (s.toList.flatMap upperChar)

def sameIgnoringCase (a b : String) : Bool :=
  a.toList.map Char.toLower == b.toList.map Char.toLower

end Spreadsheet.Text
