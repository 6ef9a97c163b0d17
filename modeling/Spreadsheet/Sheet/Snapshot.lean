import Spreadsheet.Sheet.Matrix

namespace Spreadsheet

structure MatrixSnapshot where
  name : String
  rows : Nat
  columns : Nat
  cells : List (Position × String)
  circular : List Position
deriving DecidableEq

structure SessionSnapshot where
  matrices : List MatrixSnapshot
deriving DecidableEq

namespace Matrix

def texts (m : Matrix) : List (Position × String) := m.cells.toList.map fun (p, c) => (p, c.raw)

def setTexts (m : Matrix) (texts : List (Position × String)) : Except GridError Matrix :=
  texts.foldlM (fun m (p, raw) => m.setRaw p raw) m

def snapshot (m : Matrix) (circular : List Position) : MatrixSnapshot :=
  ⟨m.name, m.rows, m.columns, m.texts, circular⟩

end Matrix

namespace MatrixSnapshot

def toMatrix (s : MatrixSnapshot) (limits : Limits) : Except GridError Matrix :=
  (do
    let m ← Matrix.create s.name limits
    let m ← m.setTexts s.cells
    m.setDimensions s.rows s.columns).mapError (.snapshotMatrix s.name)

end MatrixSnapshot

def SessionSnapshot.find? (s : SessionSnapshot) (name : String) : Option MatrixSnapshot :=
  s.matrices.find? fun m => m.name == name

end Spreadsheet
