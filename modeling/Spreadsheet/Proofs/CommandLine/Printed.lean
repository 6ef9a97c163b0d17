import Spreadsheet.CommandLine.Run
import Spreadsheet.Proofs.Session.Invariant
import Spreadsheet.Proofs.Session.Stored
import Spreadsheet.Proofs.Sheet.Recalculation
import Spreadsheet.Proofs.Text.Delimited

namespace Spreadsheet.CommandLine

def Plan.text : Plan → String
  | print report => report.out
  | write _ _ text _ => text

/-- The grid of what the cells of the matrix display. There is none where reading a cell crashes. -/
def Displays (sheet : Sheet) (grid : Fin sheet.matrix.rows → Fin sheet.matrix.columns → String) : Prop :=
  ∀ (row : Fin sheet.matrix.rows) (column : Fin sheet.matrix.columns),
    (sheet.view ⟨row, column⟩).map (·.value.display) = some (grid row column)

theorem exists_displays {sheet : Sheet} (shows : sheet.Shows) : ∃ grid, Displays sheet grid := by
  choose view shown using fun p => Option.isSome_iff_exists.1 (shows p)
  exact ⟨fun row column => (view ⟨row, column⟩).value.display, fun row column => by rw [shown]; rfl⟩

theorem shows_of_load {limits : Limits} {input text : String} {s : Session}
    (read : load limits input text = .ok s) : ∀ sheet ∈ s.sheets, sheet.Shows := by
  unfold load at read
  cases parsed : SessionSnapshot.read text with
  | none =>
      rw [parsed] at read
      cases read
  | some snapshot =>
      rw [parsed] at read
      change (Session.ofSnapshot snapshot { limits }).mapFault _ = .ok s at read
      obtain ⟨sheets, loaded, made⟩ := bind_eq_ok.1 (mapFault_eq_ok.1 read)
      cases made
      refine Session.loadSheets_all (fun accepted ran => ?_) (by simp) loaded
      exact (Sheet.ofSnapshot_ok accepted).1.shows_of_recalcAll ran

theorem displayed_eq {sheet : Sheet} {grid : Fin sheet.matrix.rows → Fin sheet.matrix.columns → String}
    (displays : Displays sheet grid) : displayed sheet = some (Text.gridLines grid) := by
  refine mapM_range_of_some fun row => mapM_range_of_some fun column => ?_
  obtain ⟨view, shown, display⟩ := Option.map_eq_some_iff.1 (displays row column)
  rw [shown, ← display]
  rfl

theorem eval_text {s : Session} {matrix output : Option String} {sheet : Sheet}
    (picked : pickMatrix s matrix = .ok sheet) (rows : 0 < sheet.matrix.rows)
    (columns : 0 < sheet.matrix.columns)
    {grid : Fin sheet.matrix.rows → Fin sheet.matrix.columns → String} (displays : Displays sheet grid)
    (delimiter : Char) :
    ∃ plan, eval s matrix output delimiter = .ok plan ∧ plan.text = Text.printGrid delimiter grid := by
  have filled : ¬ (sheet.matrix.rows = 0 ∨ sheet.matrix.columns = 0) :=
    not_or.2 ⟨Nat.ne_of_gt rows, Nat.ne_of_gt columns⟩
  unfold eval
  rw [picked, ofExcept_ok_bind, if_neg filled, displayed_eq displays, ofOption_some_bind]
  cases output with
  | none => exact ⟨_, rfl, rfl⟩
  | some path => exact ⟨_, rfl, rfl⟩

/-- The output of `eval` determines the grid, for any delimiter but the quote. It is the printed form of
what the cells display, of which every file that is read gives a grid. That form can be decoded whatever
the texts are, and so two grids of one size that differ in a cell are printed differently. -/
theorem eval_determines_grid {delimiter : Char} (usable : delimiter ≠ '"') :
    (∀ (limits : Limits) (input text : String) (s : Session), load limits input text = .ok s →
      ∀ sheet ∈ s.sheets, ∃ grid, Displays sheet grid) ∧
    (∀ (s : Session) (input : String) (matrix output : Option String) (sheet : Sheet)
      (grid : Fin sheet.matrix.rows → Fin sheet.matrix.columns → String),
      pickMatrix s matrix = .ok sheet → 0 < sheet.matrix.rows → 0 < sheet.matrix.columns →
      Displays sheet grid → ∃ plan, (Command.eval matrix output delimiter).plan s input = .ok plan ∧
        plan.text = Text.printGrid delimiter grid) ∧
    (∀ (rows columns : Nat) (grid : Fin rows → Fin columns → String),
      Text.decodeGrid delimiter rows columns (Text.printGrid delimiter grid) = grid) ∧
    (∀ (rows columns : Nat) (grid grid' : Fin rows → Fin columns → String) (row : Fin rows)
      (column : Fin columns), grid row column ≠ grid' row column →
      Text.printGrid delimiter grid ≠ Text.printGrid delimiter grid') :=
  ⟨fun _ _ _ _ read sheet mem => exists_displays (shows_of_load read sheet mem),
    fun _ _ _ _ _ _ picked rows columns displays => eval_text picked rows columns displays delimiter,
    fun _ _ => Text.decodeGrid_printGrid usable,
    fun _ _ _ _ _ _ => Text.printGrid_ne usable⟩

/-- A1 holds a comma, and B2 quotes and a line break; the two other cells are blank. -/
def quotedSnapshot : SessionSnapshot where
  matrices := [⟨"S", 2, 2, [(⟨0, 0⟩, "a,b"), (⟨1, 1⟩, "say \"hi\"\n")], []⟩]

theorem quotedSheet_printed :
    let before : Fin 1 → Fin 2 → String := fun _ column => if column = 0 then "a," else "b"
    let after : Fin 1 → Fin 2 → String := fun _ column => if column = 0 then "a" else ",b"
    (∃ s sheet grid plan, load {} "prices.json" quotedSnapshot.write = .ok s ∧ s.sheets = [sheet] ∧
      Displays sheet grid ∧ (Command.eval none none ',').plan s "prices.json" = .ok plan ∧
      Text.decodeGrid ',' sheet.matrix.rows sheet.matrix.columns plan.text = grid) ∧
    Text.printGrid ',' before ≠ Text.printGrid ',' after := by
  intro before after
  have usable : ',' ≠ '"' := by decide
  obtain ⟨shown, printed, decoded, told⟩ := eval_determines_grid usable
  have read : SessionSnapshot.read quotedSnapshot.write = some quotedSnapshot := by
    refine SessionSnapshot.read_write ?_
    simp only [quotedSnapshot, List.forall_mem_cons, List.not_mem_nil, false_imp_iff, implies_true,
      and_true]
    exact ⟨by decide, by decide, by simp [Position.Storable, rowWordBound, columnWordBound], by simp⟩
  have sizes : (Session.ofSnapshot quotedSnapshot { limits := {} }).toOption.map
      (fun s => s.sheets.map fun sheet => (sheet.matrix.rows, sheet.matrix.columns)) = some [(2, 2)] := by
    decide +kernel
  cases made : Session.ofSnapshot quotedSnapshot { limits := {} } with
  | error halt =>
      rw [made] at sizes
      cases sizes
  | ok s =>
      rw [made] at sizes
      have loaded : load {} "prices.json" quotedSnapshot.write = .ok s := by
        rw [load, read]
        exact mapFault_eq_ok.2 made
      obtain ⟨sheet, only, size⟩ := List.map_eq_singleton_iff.1 (Option.some.inj sizes)
      obtain ⟨rows, columns⟩ := Prod.mk.inj size
      have mem : sheet ∈ s.sheets := by rw [only]; exact List.mem_singleton_self sheet
      obtain ⟨grid, displays⟩ := shown {} "prices.json" _ s loaded sheet mem
      have picked : pickMatrix s none = .ok sheet := by rw [pickMatrix, only]
      obtain ⟨plan, planned, text⟩ :=
        printed s "prices.json" none none sheet grid picked (by omega) (by omega) displays
      refine ⟨⟨s, sheet, grid, plan, loaded, only, displays, planned, ?_⟩,
        told 1 2 before after 0 0 (by decide)⟩
      rw [text]
      exact decoded _ _ _

end Spreadsheet.CommandLine
