import Spreadsheet.Proofs.Data.Outcome
import Spreadsheet.Proofs.Json.RoundTrip
import Spreadsheet.Session.Stored

namespace Spreadsheet

namespace Json

theorem fields?_record (keys : List String) (fields : List (String × Json)) :
    (record fields).fields? keys = keys.mapM (valueAt? fields) := by
  have named : (fields.map fun field => ((some field.1, field.2) : Option String × Json)).mapM
      (fun field => field.1.map fun key => (key, field.2)) = some fields := by
    rw [List.mapM_map]
    exact (mapM_of_some fun _ _ => rfl).trans (congrArg some (List.map_id fields))
  exact congrArg (fun read => Option.bind read fun fields => keys.mapM (valueAt? fields)) named

theorem list?_array {α : Type} {item? : Json → Option α} {toJson : α → Json} {l : List α}
    (each : ∀ a ∈ l, item? (toJson a) = some a) : list? item? (.array (l.map toJson)) = some l := by
  show (l.map toJson).mapM item? = some l
  rw [List.mapM_map]
  exact (mapM_of_some each).trans (congrArg some (List.map_id l))

end Json

def Position.Storable (p : Position) : Prop := p.row < rowWordBound ∧ p.column < columnWordBound

namespace MatrixSnapshot
variable {m : MatrixSnapshot}

structure Storable (m : MatrixSnapshot) : Prop where
  rows : m.rows < rowWordBound
  columns : m.columns < columnWordBound
  cells : ∀ cell ∈ m.cells, cell.1.Storable
  circular : ∀ p ∈ m.circular, p.Storable

theorem cellOfJson?_cellToJson {cell : Position × String} (h : cell.1.Storable) :
    cellOfJson? (cellToJson cell) = some cell := by
  unfold cellOfJson? cellToJson
  rw [Json.fields?_record]
  simp [Json.valueAt?, Json.natural?, Json.text?, h.1, h.2]

theorem positionOfJson?_positionToJson {p : Position} (h : p.Storable) :
    positionOfJson? (positionToJson p) = some p := by
  simp [positionOfJson?, positionToJson, Json.natural?, h.1, h.2]

def circularToJson? (m : MatrixSnapshot) : Option Json :=
  if m.circular = [] then none else some (.array (m.circular.map positionToJson))

theorem fields?_toJson (m : MatrixSnapshot) :
    m.toJson.fields? ["name", "rows", "cols", "cells", "circular"] =
      some [some (.text (some m.name)), some (.natural m.rows), some (.natural m.columns),
        some (.array (m.cells.map cellToJson)), m.circularToJson?] := by
  unfold toJson circularToJson?
  dsimp only
  rw [Json.fields?_record]
  cases m.circular with
  | nil => simp [Json.valueAt?]
  | cons p rest => simp [Json.valueAt?]

theorem circular_left_out (m : MatrixSnapshot) :
    m.toJson.fields? ["circular"] = some [none] ↔ m.circular = [] := by
  unfold toJson
  dsimp only
  rw [Json.fields?_record]
  cases m.circular with
  | nil => simp [Json.valueAt?]
  | cons p rest => simp [Json.valueAt?]

theorem Storable.withDefault_circular (h : m.Storable) :
    Json.withDefault [] (Json.list? positionOfJson?) m.circularToJson? = some m.circular := by
  unfold circularToJson?
  by_cases none : m.circular = []
  · rw [if_pos none, none]
    rfl
  · rw [if_neg none]
    exact Json.list?_array fun p mem => positionOfJson?_positionToJson (h.circular p mem)

theorem Storable.ofJson?_toJson (h : m.Storable) : ofJson? m.toJson = some m := by
  have cells : Json.withDefault [] (Json.list? cellOfJson?)
      (some (.array (m.cells.map cellToJson))) = some m.cells :=
    Json.list?_array fun cell mem => cellOfJson?_cellToJson (h.cells cell mem)
  unfold ofJson?
  rw [fields?_toJson]
  simp only [Option.bind_eq_bind, Option.bind_some, Json.text?, Json.natural?, h.rows, h.columns,
    if_true, cells, h.withDefault_circular]
  rfl

theorem natural_of_row {n : Nat} (row : n < rowWordBound) : Json.Faithful (.natural n) :=
  .natural (row.trans (by decide))

theorem natural_of_column {n : Nat} (column : n < columnWordBound) : Json.Faithful (.natural n) :=
  .natural (column.trans (by decide))

theorem faithful_cellToJson {cell : Position × String} (h : cell.1.Storable) :
    (cellToJson cell).Faithful := by
  refine .record ?_
  simp only [List.forall_mem_cons, List.not_mem_nil, false_imp_iff, implies_true, and_true]
  exact ⟨natural_of_row h.1, natural_of_column h.2, .text cell.2⟩

theorem faithful_positionToJson {p : Position} (h : p.Storable) : (positionToJson p).Faithful := by
  refine .array ?_
  simp only [List.forall_mem_cons, List.not_mem_nil, false_imp_iff, implies_true, and_true]
  exact ⟨natural_of_row h.1, natural_of_column h.2⟩

theorem Storable.faithful (h : m.Storable) : m.toJson.Faithful := by
  have cells : (Json.array (m.cells.map cellToJson)).Faithful :=
    .array (List.forall_mem_map.2 fun cell mem => faithful_cellToJson (h.cells cell mem))
  have circular : (Json.array (m.circular.map positionToJson)).Faithful :=
    .array (List.forall_mem_map.2 fun p mem => faithful_positionToJson (h.circular p mem))
  refine .record fun field mem => ?_
  rcases List.mem_append.1 mem with always | sometimes
  · simp only [List.mem_cons, List.not_mem_nil, or_false] at always
    rcases always with rfl | rfl | rfl | rfl
    · exact .text m.name
    · exact natural_of_row h.rows
    · exact natural_of_column h.columns
    · exact cells
  · split at sometimes
    · cases sometimes
    · rw [List.mem_singleton.1 sometimes]
      exact circular

end MatrixSnapshot

namespace SessionSnapshot
variable {s : SessionSnapshot}

theorem ofJson?_toJson (h : ∀ m ∈ s.matrices, m.Storable) : ofJson? s.toJson = some s := by
  have matrices : Json.list? MatrixSnapshot.ofJson?
      (.array (s.matrices.map MatrixSnapshot.toJson)) = some s.matrices :=
    Json.list?_array fun m mem => (h m mem).ofJson?_toJson
  unfold ofJson? toJson
  rw [Json.fields?_record]
  simp [Json.valueAt?, matrices]

theorem faithful_toJson (h : ∀ m ∈ s.matrices, m.Storable) : s.toJson.Faithful := by
  have matrices : (Json.array (s.matrices.map MatrixSnapshot.toJson)).Faithful :=
    .array (List.forall_mem_map.2 fun m mem => (h m mem).faithful)
  refine .record fun field mem => ?_
  rw [List.mem_singleton.1 mem]
  exact matrices

theorem read_write (h : ∀ m ∈ s.matrices, m.Storable) : read s.write = some s := by
  rw [read, write, (faithful_toJson h).parse_pretty, Option.bind_some, ofJson?_toJson h]

/-- Reading gives back any snapshot that was written, though the circular formulas of a matrix are left
out where there are none. -/
theorem read_back (h : ∀ m ∈ s.matrices, m.Storable) :
    read s.write = some s ∧
      ∀ m ∈ s.matrices, (m.toJson.fields? ["circular"] = some [none] ↔ m.circular = []) :=
  ⟨read_write h, fun m _ => m.circular_left_out⟩

def awkwardSnapshot : SessionSnapshot where
  matrices :=
    [⟨"the \"large\" one", 4294967295, 65535, [], []⟩,
      ⟨"", 2, 1, [(⟨0, 0⟩, "=\"\\\"&A1"), (⟨1, 0⟩, "\t\x07\x1f\n日本 €😀")], [⟨0, 0⟩]⟩]

theorem awkwardSnapshot_read :
    (∀ m ∈ awkwardSnapshot.matrices, m.Storable) ∧
    read awkwardSnapshot.write = some awkwardSnapshot ∧
    awkwardSnapshot.matrices.map (fun m => decide (m.circular = [])) = [true, false] ∧
    ∀ m ∈ awkwardSnapshot.matrices,
      (m.toJson.fields? ["circular"] = some [none] ↔ m.circular = []) := by
  have storable : ∀ m ∈ awkwardSnapshot.matrices, m.Storable := by
    simp only [awkwardSnapshot, List.forall_mem_cons, List.not_mem_nil, false_imp_iff, implies_true,
      and_true]
    exact ⟨⟨by decide, by decide, by simp, by simp⟩,
      ⟨by decide, by decide, by simp [Position.Storable, rowWordBound, columnWordBound],
        by simp [Position.Storable, rowWordBound, columnWordBound]⟩⟩
  exact ⟨storable, (read_back storable).1, by decide, (read_back storable).2⟩

end SessionSnapshot

end Spreadsheet
