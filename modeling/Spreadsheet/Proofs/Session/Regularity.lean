import Spreadsheet.Proofs.Session.Stacks
import Spreadsheet.Proofs.Session.Truthfulness
import Spreadsheet.Proofs.Sheet.Restoring

namespace Spreadsheet

namespace Sheet

theorem Regular.recalcCells {limits : Limits} {s s' : Sheet} (limits_eq : s.limits = limits)
    (storable : s.matrix.Storable) {set : PositionSet} {cancelled : Bool} {stats : RecalcStats}
    (ran : s.recalcCells set cancelled = some (s', stats)) (truthful : s'.Truthful) : s'.Regular limits :=
  ⟨truthful, (frame_recalcCells ran).1.trans limits_eq, storable.of_reread (reread_recalcCells ran)⟩

theorem regular_kept (limits : Limits) : Sheet.Kept limits (Regular limits) where
  untouched h := h
  created ok :=
    ⟨(truthful_kept limits).created ok, (create_ok ok).2.1, create_storable ok⟩
  loaded ok ran :=
    .recalcCells (ofSnapshot_ok ok).2.1 (ofSnapshot_storable ok) ran ((truthful_kept limits).loaded ok ran)
  written h ok ran :=
    .recalcCells ((frame_write ok).1.trans h.limits_eq) (write_storable h.storable ok) ran
      ((truthful_kept limits).written h.toTruthful ok ran)
  edited h ok ran :=
    .recalcCells ((editLine_ok h.toSound ok).2.1.1.trans h.limits_eq) (editLine_storable h.storable ok) ran
      ((truthful_kept limits).edited h.toTruthful ok ran)
  restored h ok ran :=
    .recalcCells ((restore_ok h.toSound ok).2.1.1.trans h.limits_eq) (restore_storable h.storable ok) ran
      ((truthful_kept limits).restored h.toTruthful ok ran)
  recalculated h ran :=
    .recalcCells h.limits_eq h.storable ran ((truthful_kept limits).recalculated h.toTruthful ran)

end Sheet

def Operation.IsEdit : Operation → Prop
  | .setCell .. | .setCells .. | .editLine .. => True
  | _ => False

namespace Session

/-! ## Names -/

theorem names_replace (s : Session) {name : String} {sheet : Sheet} (named : sheet.name = name) :
    (s.replace name sheet).names = s.names := by
  unfold names replace
  dsimp only
  rw [List.map_map]
  refine List.map_congr_left fun old _ => ?_
  dsimp only [Function.comp]
  split
  · rename_i same
    rw [named, eq_of_beq same]
  · rfl

theorem nodup_append {sheets : List Sheet} (nodup : (sheets.map Sheet.name).Nodup) {sheet : Sheet}
    (new : ¬ sheet.name ∈ sheets.map Sheet.name) : ((sheets ++ [sheet]).map Sheet.name).Nodup := by
  rw [List.map_append, List.map_singleton, ← List.concat_eq_append]
  exact nodup.concat new

theorem names_loadSheets {limits : Limits} {snapshots : List MatrixSnapshot} (loaded : List Sheet)
    {sheets : List Sheet} (nodup : (loaded.map Sheet.name).Nodup)
    (ok : loadSheets limits loaded snapshots = .ok sheets) :
    (sheets.map Sheet.name).Nodup := by
  induction snapshots generalizing loaded with
  | nil =>
      cases ok
      exact nodup
  | cons snapshot rest ih =>
      unfold loadSheets at ok
      split at ok
      · cases ok
      · rename_i new
        obtain ⟨sheet, read, ok⟩ := bind_eq_ok.1 ok
        obtain ⟨⟨sheet', stats⟩, ran, ok⟩ := bind_eq_ok.1 ok
        refine ih _ ?_ ok
        have name : sheet'.name = snapshot.name :=
          (Sheet.frame_recalcCells (ofOption_eq_ok.1 ran)).2.trans
            (Sheet.ofSnapshot_ok (ofExcept_eq_ok.1 read)).2.2.1
        refine nodup_append nodup fun mem => new ?_
        rw [name] at mem
        exact List.contains_iff_mem.2 mem

/-! ## Regular sessions -/

structure Regular (options : Options) (s : Session) : Prop where
  holds : s.Holds options (Sheet.Regular options.limits)
  names : s.names.Nodup
  history : s.history.Bounded options.undoLimit

def Edited (limits : Limits) (s s' : Session) : Prop :=
  ∃ sheet sheet' step, s.sheet sheet.name = .ok sheet ∧ sheet'.Regular limits ∧
    sheet'.name = sheet.name ∧ sheet.Recalls sheet' step ∧
    s' = { s.replace sheet.name sheet' with history := s.history.push step }

section
variable {options : Options} {s s' : Session} {name : String}

theorem Regular.replace (h : s.Regular options) {sheet : Sheet}
    (regular : sheet.Regular options.limits) (named : sheet.name = name) {history : History}
    (bounded : history.Bounded options.undoLimit) :
    ({ s.replace name sheet with history } : Session).Regular options := by
  refine ⟨h.holds.replace regular, ?_, bounded⟩
  show (s.replace name sheet).names.Nodup
  rw [names_replace s named]
  exact h.names

theorem Holds.sheet (h : s.Holds options (Sheet.Regular options.limits)) {sheet : Sheet}
    (found : s.sheet name = .ok sheet) : sheet.Regular options.limits := h.2 sheet (sheet_ok found).1

theorem edited_writeCells (h : s.Holds options (Sheet.Regular options.limits)) {description : String}
    {edits : List (Position × String)} {cancelled : Bool} {stats : RecalcStats}
    (ok : s.writeCells name description edits cancelled = .ok (s', stats)) :
    s.Edited options.limits s' := by
  obtain ⟨sheet, written, roots, sheet', found, wrote, ran, rfl⟩ := writeCells_ok ok
  have regular := h.sheet found
  obtain rfl := (sheet_ok found).2
  have kept := (Sheet.regular_kept options.limits).written regular wrote ran
  refine ⟨sheet, sheet', _, found, kept, ?_, .cells _ ?_ ?_, rfl⟩
  · exact ((Sheet.frame_write wrote).trans (Sheet.frame_recalcCells ran)).2
  · exact (Sheet.write_ok wrote).2
  · intro p absent
    have texts : sheet'.matrix.reread = sheet.matrix.reread.putAll edits :=
      (Sheet.reread_recalcCells ran).trans (Sheet.reread_write wrote)
    rw [← Matrix.raw_reread, texts, Matrix.raw_putAll_other _ absent, Matrix.raw_reread]

theorem edited_editLine (h : s.Holds options (Sheet.Regular options.limits)) {edit : LineEdit}
    {stats : RecalcStats} (ok : s.editLine name edit = .ok (s', stats)) :
    s.Edited options.limits s' := by
  obtain ⟨sheet, edited, sheet', found, moved, ran, rfl⟩ := editLine_ok ok
  have regular := h.sheet found
  obtain rfl := (sheet_ok found).2
  have kept := (Sheet.regular_kept options.limits).edited regular moved ran
  have frame := (Sheet.editLine_ok regular.toSound moved).2.1
  exact ⟨sheet, sheet', _, found, kept, (frame.trans (Sheet.frame_recalcCells ran)).2,
    .matrix edit.describe, rfl⟩

theorem edited_perform (h : s.Holds options (Sheet.Regular options.limits)) {op : Operation}
    (edit : op.IsEdit) {result : Session × Reply} (ok : s.perform op = .ok result) :
    s.Edited options.limits result.1 := by
  cases op with
  | setCell name p raw cancelled =>
      obtain ⟨⟨_, _, _⟩, wrote, rfl⟩ := map_eq_ok.1 ok
      exact edited_writeCells h (setCell_ok wrote).1
  | setCells name edits =>
      obtain ⟨⟨_, _⟩, wrote, rfl⟩ := map_eq_ok.1 ok
      exact edited_writeCells h wrote
  | editLine name edit =>
      obtain ⟨⟨_, _⟩, edited, rfl⟩ := map_eq_ok.1 ok
      exact edited_editLine h edited
  | addMatrix | removeMatrix | recalculate | load | undo | redo => cases edit

theorem Regular.edited (h : s.Regular options) (edited : s.Edited options.limits s') :
    s'.Regular options := by
  obtain ⟨sheet, sheet', step, _, regular, named, _, rfl⟩ := edited
  exact h.replace regular named (h.history.push step)

theorem Regular.addMatrix (h : s.Regular options) (ok : s.addMatrix name = .ok s') :
    s'.Regular options := by
  have holds := h.holds.addMatrix (Sheet.regular_kept _) ok
  obtain ⟨_, _, ok⟩ := bind_eq_ok.1 ok
  split at ok
  · cases ok
  · rename_i new
    obtain ⟨sheet, created, ok⟩ := bind_eq_ok.1 ok
    cases ok
    refine ⟨holds, nodup_append h.names fun mem => new ?_, h.history⟩
    rw [(Sheet.create_ok created).2.2.1] at mem
    exact List.contains_iff_mem.2 mem

theorem Regular.removeMatrix (h : s.Regular options) (ok : s.removeMatrix name = .ok s') :
    s'.Regular options := by
  have holds := h.holds.removeMatrix ok
  obtain ⟨_, _, ok⟩ := bind_eq_ok.1 ok
  cases ok
  exact ⟨holds, h.names.sublist (List.filter_sublist.map _), h.history.forget name⟩

theorem Regular.recalculate (h : s.Regular options) {cancelled : Bool} {stats : RecalcStats}
    (ok : s.recalculate name cancelled = .ok (s', stats)) : s'.Regular options := by
  obtain ⟨sheet, sheet', found, ran, rfl⟩ := recalculate_ok ok
  have kept := (Sheet.regular_kept options.limits).recalculated (h.holds.sheet found) ran
  exact h.replace kept ((Sheet.frame_recalcCells ran).2.trans (sheet_ok found).2) h.history

theorem Regular.load (h : s.Regular options) {snapshot : SessionSnapshot}
    (ok : s.load snapshot = .ok s') : s'.Regular options := by
  have holds := h.holds.load (Sheet.regular_kept _) ok
  obtain ⟨sheets, loaded, ok⟩ := bind_eq_ok.1 ok
  cases ok
  exact ⟨holds, names_loadSheets [] List.nodup_nil loaded, h.history.clear⟩

theorem Regular.revert (h : s.Regular options) {step inverse : Step}
    (ok : s.revert step = .ok (s', inverse)) {history : History}
    (bounded : history.Bounded options.undoLimit) :
    ({ s' with history } : Session).Regular options := by
  obtain ⟨sheet, restored, sheet', stats, found, back, ran, rfl, _⟩ := revert_ok ok
  have regular := h.holds.sheet found
  have kept := (Sheet.regular_kept options.limits).restored regular back ran
  have frame := (Sheet.restore_ok regular.toSound back).2.1.trans (Sheet.frame_recalcCells ran)
  exact h.replace kept (frame.2.trans (sheet_ok found).2) bounded

theorem Regular.undo (h : s.Regular options) {applied : Bool} (undone : s.undo = some (s', applied)) :
    s'.Regular options := by
  cases undos : s.history.undos with
  | nil =>
      rw [undo_nil undos] at undone
      cases undone
      exact h
  | cons step rest =>
      have popped := h.history.pop undos
      rw [undo_cons undos] at undone
      split at undone
      · rename_i inverse reverted
        cases undone
        exact h.revert reverted (popped.pushRedo inverse)
      · cases undone
        exact ⟨h.holds, h.names, popped⟩
      · cases undone

theorem Regular.turned (h : s.Regular options) : s.turned.Regular options :=
  ⟨h.holds, h.names, h.history.turned⟩

theorem Regular.redo (h : s.Regular options) {applied : Bool} (redone : s.redo = some (s', applied)) :
    s'.Regular options := by
  rw [redo_eq] at redone
  obtain ⟨⟨t, b⟩, undone, same⟩ := Option.map_eq_some_iff.1 redone
  cases same
  exact (h.turned.undo undone).turned

theorem Regular.perform (h : s.Regular options) (op : Operation) {result : Session × Reply}
    (ok : s.perform op = .ok result) : result.1.Regular options := by
  cases op with
  | addMatrix name =>
      obtain ⟨_, added, rfl⟩ := map_eq_ok.1 ok
      exact h.addMatrix (ofExcept_eq_ok.1 added)
  | removeMatrix name =>
      obtain ⟨_, removed, rfl⟩ := map_eq_ok.1 ok
      exact h.removeMatrix (ofExcept_eq_ok.1 removed)
  | setCell | setCells | editLine => exact h.edited (edited_perform h.holds (by trivial) ok)
  | recalculate name cancelled =>
      obtain ⟨⟨_, _⟩, recalculated, rfl⟩ := map_eq_ok.1 ok
      exact h.recalculate recalculated
  | load snapshot =>
      obtain ⟨_, loaded, rfl⟩ := map_eq_ok.1 ok
      exact h.load loaded
  | undo =>
      obtain ⟨⟨_, _⟩, undone, rfl⟩ := map_eq_ok.1 ok
      exact h.undo (ofOption_eq_ok.1 undone)
  | redo =>
      obtain ⟨⟨_, _⟩, redone, rfl⟩ := map_eq_ok.1 ok
      exact h.redo (ofOption_eq_ok.1 redone)

theorem Regular.after (h : s.Regular options) {op : Operation} (done : s.after op = some s') :
    s'.Regular options := by
  rcases after_eq_some done with ⟨reply, ok⟩ | rfl
  · exact h.perform op ok
  · exact h

end

theorem Reachable.regular {options : Options} {s : Session} (h : Reachable options s) :
    s.Regular options := by
  induction h with
  | create =>
      exact ⟨⟨rfl, fun _ mem => nomatch mem⟩, List.nodup_nil, rfl, Nat.zero_le _, Nat.zero_le _⟩
  | after op _ done ih => exact ih.after done

/-! ## Sessions with one snapshot -/

structure Alike (s s' : Session) : Prop where
  snapshot : s'.snapshot = s.snapshot
  shown : ∀ name p, (s'.cell name p).map CellView.shown = (s.cell name p).map CellView.shown

theorem find_snapshot (s : Session) (name : String) :
    s.snapshot.find? name = (s.sheet name).toOption.map Sheet.snapshot := by
  have found : s.snapshot.find? name =
      (s.sheets.find? fun sheet => sheet.name == name).map Sheet.snapshot := List.find?_map
  rw [found]
  unfold Session.sheet
  cases s.sheets.find? fun sheet => sheet.name == name <;> rfl

theorem cell_missing {s : Session} {name : String} (missing : (s.sheet name).toOption = none)
    (p : Position) : s.cell name p = .error (.fault (.matrixNotFound name)) := by
  unfold cell
  unfold Session.sheet at missing ⊢
  cases found : s.sheets.find? fun sheet => sheet.name == name with
  | none => rfl
  | some sheet =>
      rw [found] at missing
      cases missing

theorem Regular.alike {options : Options} {s s' : Session} (h : s.Regular options)
    (h' : s'.Regular options) (same : s'.snapshot = s.snapshot) : s.Alike s' := by
  refine ⟨same, fun name p => ?_⟩
  have stored : s'.snapshot.find? name = s.snapshot.find? name := by rw [same]
  rw [find_snapshot, find_snapshot] at stored
  cases found : s.sheet name with
  | error fault =>
      rw [found] at stored
      have missing : (s.sheet name).toOption = none := by rw [found]; rfl
      rw [cell_missing missing, cell_missing (Option.map_eq_none_iff.1 stored)]
  | ok sheet =>
      cases found' : s'.sheet name with
      | error fault =>
          rw [found, found'] at stored
          cases stored
      | ok sheet' =>
          rw [found, found'] at stored
          have snapshot : sheet'.snapshot = sheet.snapshot := Option.some.inj stored
          have regular := h.holds.sheet found
          have regular' := h'.holds.sheet found'
          have limits := regular'.limits_eq.trans regular.limits_eq.symm
          exact cell_congr found found' limits
            (regular.toTruthful.shown_of_snapshot regular'.toTruthful limits snapshot p)

def Shows (s : Session) : Prop := ∀ sheet ∈ s.sheets, sheet.Shows

theorem Reachable.shows_iff {options : Options} {s : Session} (h : Reachable options s) :
    s.Shows ↔ (s.sheets.all fun sheet => (sheet.recalcAll false).isSome) = true := by
  rw [List.all_eq_true]
  exact forall₂_congr fun sheet mem => (h.truthful sheet mem).recalcAll_isSome_iff.symm

theorem Regular.shows_of_snapshot {options : Options} {s s' : Session} (h : s.Regular options)
    (h' : s'.Regular options) (same : s'.snapshot = s.snapshot) (shows : s.Shows) : s'.Shows := by
  intro sheet' mem'
  have sheets : s'.sheets.map Sheet.snapshot = s.sheets.map Sheet.snapshot :=
    congrArg SessionSnapshot.matrices same
  have stored : sheet'.snapshot ∈ s'.sheets.map Sheet.snapshot := List.mem_map_of_mem mem'
  rw [sheets] at stored
  obtain ⟨sheet, mem, snapshot⟩ := List.mem_map.1 stored
  exact ((h.holds.2 sheet mem).shows_iff (h'.holds.2 sheet' mem') snapshot.symm).2 (shows sheet mem)

end Session

end Spreadsheet
