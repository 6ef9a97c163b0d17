import Spreadsheet.Proofs.Session.Crash
import Spreadsheet.Proofs.Sheet.Runs

namespace Spreadsheet.Session

inductive Writes (s : Session) (name : String) :
    List (Position × String) → Session → RecalcStats → Prop
  | setCell {p : Position} {raw : String} {s' : Session} {view : CellView} {stats : RecalcStats} :
      s.setCell name p raw false = .ok (s', view, stats) → Writes s name [(p, raw)] s' stats
  | setCells {edits : List (Position × String)} {s' : Session} {stats : RecalcStats} :
      s.setCells name edits = .ok (s', stats) → Writes s name edits s' stats

section
variable {options : Options} {s s' : Session} {name : String} {edits : List (Position × String)}
  {stats : RecalcStats}

theorem Writes.writeCells (writes : s.Writes name edits s' stats) :
    ∃ description, s.writeCells name description edits false = .ok (s', stats) := by
  cases writes with
  | setCell ok => exact ⟨_, (setCell_ok ok).1⟩
  | setCells ok => exact ⟨_, ok⟩

end

def chained : Session := reached {}
  [.addMatrix "S", .setCells "S" [(⟨0, 0⟩, "=B1"), (⟨0, 1⟩, "=C1"), (⟨0, 2⟩, "net")]]

end Spreadsheet.Session
