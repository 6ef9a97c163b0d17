import Spreadsheet.Proofs.Data.Outcome
import Spreadsheet.Session.Operation

/-!
# Invariants of sessions

A property of sheets that is kept by everything operations do to one sheet holds for all sheets of
every reachable session. What an operation ensures may also be less than what it relies on, so that a
sheet keeps a property only under a condition.
-/

namespace Spreadsheet

/-- What operations do to one sheet with the property `P` ensures `R`, which is the same by default. -/
structure Sheet.Kept (limits : Limits) (P : Sheet → Prop) (R : Sheet → Prop := P) : Prop where
  untouched : ∀ {s : Sheet}, P s → R s
  created : ∀ {name : String} {s : Sheet}, Sheet.create name limits = .ok s → R s
  loaded : ∀ {snapshot : MatrixSnapshot} {s s' : Sheet} {stats : RecalcStats},
    Sheet.ofSnapshot snapshot limits = .ok s → s.recalcAll false = some (s', stats) → R s'
  written : ∀ {s written s' : Sheet} {edits : List (Position × String)} {roots : List Position}
    {cancelled : Bool} {stats : RecalcStats}, P s → s.write edits = .ok (written, roots) →
    written.recalcFrom roots cancelled = some (s', stats) → R s'
  edited : ∀ {s edited s' : Sheet} {edit : LineEdit} {stats : RecalcStats}, P s →
    s.editLine edit = .ok edited → edited.recalcAll false = some (s', stats) → R s'
  restored : ∀ {s restored s' : Sheet} {step : Step} {stats : RecalcStats}, P s →
    s.restore step = .ok restored → restored.recalcAll false = some (s', stats) → R s'
  recalculated : ∀ {s s' : Sheet} {cancelled : Bool} {stats : RecalcStats}, P s →
    s.recalcAll cancelled = some (s', stats) → R s'

namespace Session

theorem sheet_ok {s : Session} {name : String} {sheet : Sheet} (ok : s.sheet name = .ok sheet) :
    sheet ∈ s.sheets ∧ sheet.name = name := by
  unfold Session.sheet at ok
  split at ok
  · rename_i found
    cases ok
    exact ⟨List.mem_of_find?_eq_some found, by simpa using List.find?_some found⟩
  · cases ok

theorem mem_replace {s : Session} {name : String} {sheet sheet' : Sheet}
    (mem : sheet ∈ (s.replace name sheet').sheets) : sheet = sheet' ∨ sheet ∈ s.sheets := by
  obtain ⟨old, stored, rfl⟩ := List.mem_map.1 mem
  split
  · exact .inl rfl
  · exact .inr stored

def Holds (options : Options) (P : Sheet → Prop) (s : Session) : Prop :=
  s.options = options ∧ ∀ sheet ∈ s.sheets, P sheet

section
variable {options : Options} {P R : Sheet → Prop} {s s' : Session} {name : String}

theorem Holds.replace (h : s.Holds options P) {sheet : Sheet} (new : P sheet) :
    (s.replace name sheet).Holds options P := by
  refine ⟨h.1, fun x mem => ?_⟩
  rcases mem_replace mem with rfl | old
  · exact new
  · exact h.2 x old

theorem Holds.untouched (h : s.Holds options P) (kept : Sheet.Kept options.limits P R) :
    s.Holds options R := ⟨h.1, fun sheet mem => kept.untouched (h.2 sheet mem)⟩

theorem Holds.addMatrix (h : s.Holds options P) (kept : Sheet.Kept options.limits P R)
    (ok : s.addMatrix name = .ok s') : s'.Holds options R := by
  obtain ⟨_, _, ok⟩ := bind_eq_ok.1 ok
  split at ok
  · cases ok
  · obtain ⟨sheet, created, ok⟩ := bind_eq_ok.1 ok
    cases ok
    refine ⟨h.1, fun x mem => ?_⟩
    rcases List.mem_append.1 mem with old | new
    · exact kept.untouched (h.2 x old)
    · rw [List.mem_singleton.1 new]
      rw [h.1] at created
      exact kept.created created

theorem Holds.removeMatrix (h : s.Holds options P) (ok : s.removeMatrix name = .ok s') :
    s'.Holds options P := by
  obtain ⟨_, _, ok⟩ := bind_eq_ok.1 ok
  cases ok
  exact ⟨h.1, fun x mem => h.2 x (List.mem_filter.1 mem).1⟩

theorem writeCells_ok {description : String} {edits : List (Position × String)} {cancelled : Bool}
    {stats : RecalcStats} (ok : s.writeCells name description edits cancelled = .ok (s', stats)) :
    ∃ sheet written roots sheet', s.sheet name = .ok sheet ∧ sheet.write edits = .ok (written, roots) ∧
      written.recalcFrom roots cancelled = some (sheet', stats) ∧
      s' = { s.replace name sheet' with
        history := s.history.push (sheet.recordCells description (edits.map (·.1))) } := by
  obtain ⟨sheet, found, ok⟩ := bind_eq_ok.1 ok
  obtain ⟨⟨written, roots⟩, wrote, ok⟩ := bind_eq_ok.1 ok
  obtain ⟨⟨sheet', _⟩, ran, ok⟩ := bind_eq_ok.1 ok
  cases ok
  exact ⟨sheet, written, roots, sheet', ofExcept_eq_ok.1 found, ofExcept_eq_ok.1 wrote,
    ofOption_eq_ok.1 ran, rfl⟩

theorem setCell_ok {p : Position} {raw : String} {cancelled : Bool} {view : CellView} {stats : RecalcStats}
    (ok : s.setCell name p raw cancelled = .ok (s', view, stats)) :
    s.writeCells name (describeEdit p raw) [(p, raw)] cancelled = .ok (s', stats) ∧
      ∃ sheet, s'.sheet name = .ok sheet ∧ sheet.view p = some view := by
  obtain ⟨⟨s₁, stats₁⟩, wrote, ok⟩ := bind_eq_ok.1 ok
  obtain ⟨sheet, found, ok⟩ := bind_eq_ok.1 ok
  obtain ⟨shown, viewed, ok⟩ := bind_eq_ok.1 ok
  cases ok
  exact ⟨wrote, sheet, ofExcept_eq_ok.1 found, ofOption_eq_ok.1 viewed⟩

theorem editLine_ok {edit : LineEdit} {stats : RecalcStats} (ok : s.editLine name edit = .ok (s', stats)) :
    ∃ sheet edited sheet', s.sheet name = .ok sheet ∧ sheet.editLine edit = .ok edited ∧
      edited.recalcAll false = some (sheet', stats) ∧
      s' = { s.replace name sheet' with history := s.history.push (sheet.recordMatrix edit.describe) } := by
  obtain ⟨sheet, found, ok⟩ := bind_eq_ok.1 ok
  obtain ⟨edited, shifted, ok⟩ := bind_eq_ok.1 ok
  obtain ⟨⟨sheet', _⟩, ran, ok⟩ := bind_eq_ok.1 ok
  cases ok
  exact ⟨sheet, edited, sheet', ofExcept_eq_ok.1 found, ofExcept_eq_ok.1 shifted, ofOption_eq_ok.1 ran, rfl⟩

theorem recalculate_ok {cancelled : Bool} {stats : RecalcStats}
    (ok : s.recalculate name cancelled = .ok (s', stats)) :
    ∃ sheet sheet', s.sheet name = .ok sheet ∧ sheet.recalcAll cancelled = some (sheet', stats) ∧
      s' = s.replace name sheet' := by
  obtain ⟨sheet, found, ok⟩ := bind_eq_ok.1 ok
  obtain ⟨⟨sheet', _⟩, ran, ok⟩ := bind_eq_ok.1 ok
  cases ok
  exact ⟨sheet, sheet', ofExcept_eq_ok.1 found, ofOption_eq_ok.1 ran, rfl⟩

theorem revert_ok {step inverse : Step} (ok : s.revert step = .ok (s', inverse)) :
    ∃ sheet restored sheet' stats, s.sheet step.matrix = .ok sheet ∧ sheet.restore step = .ok restored ∧
      restored.recalcAll false = some (sheet', stats) ∧ s' = s.replace step.matrix sheet' ∧
      inverse = sheet.inverseOf step := by
  obtain ⟨sheet, found, ok⟩ := bind_eq_ok.1 ok
  obtain ⟨restored, done, ok⟩ := bind_eq_ok.1 ok
  obtain ⟨⟨sheet', stats⟩, ran, ok⟩ := bind_eq_ok.1 ok
  cases ok
  exact ⟨sheet, restored, sheet', stats, ofExcept_eq_ok.1 found, ofExcept_eq_ok.1 done,
    ofOption_eq_ok.1 ran, rfl, rfl⟩

theorem Holds.writeCells (h : s.Holds options P) (kept : Sheet.Kept options.limits P R)
    {description : String} {edits : List (Position × String)} {cancelled : Bool} {stats : RecalcStats}
    (ok : s.writeCells name description edits cancelled = .ok (s', stats)) : s'.Holds options R := by
  obtain ⟨sheet, written, roots, sheet', found, wrote, ran, rfl⟩ := writeCells_ok ok
  exact (h.untouched kept).replace (kept.written (h.2 sheet (sheet_ok found).1) wrote ran)

theorem Holds.editLine (h : s.Holds options P) (kept : Sheet.Kept options.limits P R) {edit : LineEdit}
    {stats : RecalcStats} (ok : s.editLine name edit = .ok (s', stats)) : s'.Holds options R := by
  obtain ⟨sheet, edited, sheet', found, shifted, ran, rfl⟩ := editLine_ok ok
  exact (h.untouched kept).replace (kept.edited (h.2 sheet (sheet_ok found).1) shifted ran)

theorem Holds.recalculate (h : s.Holds options P) (kept : Sheet.Kept options.limits P R)
    {cancelled : Bool} {stats : RecalcStats} (ok : s.recalculate name cancelled = .ok (s', stats)) :
    s'.Holds options R := by
  obtain ⟨sheet, sheet', found, ran, rfl⟩ := recalculate_ok ok
  exact (h.untouched kept).replace (kept.recalculated (h.2 sheet (sheet_ok found).1) ran)

theorem loadSheets_all {limits : Limits} {snapshots : List MatrixSnapshot} {loaded sheets : List Sheet}
    (new : ∀ {snapshot : MatrixSnapshot} {sheet sheet' : Sheet} {stats : RecalcStats},
      Sheet.ofSnapshot snapshot limits = .ok sheet → sheet.recalcAll false = some (sheet', stats) → R sheet')
    (before : ∀ sheet ∈ loaded, R sheet)
    (ok : loadSheets limits loaded snapshots = .ok sheets) : ∀ sheet ∈ sheets, R sheet := by
  induction snapshots generalizing loaded with
  | nil =>
      cases ok
      exact before
  | cons snapshot rest ih =>
      unfold loadSheets at ok
      split at ok
      · cases ok
      · obtain ⟨sheet, read, ok⟩ := bind_eq_ok.1 ok
        obtain ⟨⟨sheet', stats⟩, ran, ok⟩ := bind_eq_ok.1 ok
        refine ih (fun x mem => ?_) ok
        rcases List.mem_append.1 mem with old | last
        · exact before x old
        · rw [List.mem_singleton.1 last]
          exact new (ofExcept_eq_ok.1 read) (ofOption_eq_ok.1 ran)

theorem Holds.load (h : s.Holds options P) (kept : Sheet.Kept options.limits P R)
    {snapshot : SessionSnapshot} (ok : s.load snapshot = .ok s') : s'.Holds options R := by
  obtain ⟨sheets, loaded, ok⟩ := bind_eq_ok.1 ok
  cases ok
  rw [h.1] at loaded
  exact ⟨h.1, loadSheets_all kept.loaded (by simp) loaded⟩

theorem Holds.revert (h : s.Holds options P) (kept : Sheet.Kept options.limits P R) {step inverse : Step}
    (ok : s.revert step = .ok (s', inverse)) : s'.Holds options R := by
  obtain ⟨sheet, restored, sheet', stats, found, done, ran, rfl, _⟩ := revert_ok ok
  exact (h.untouched kept).replace (kept.restored (h.2 sheet (sheet_ok found).1) done ran)

theorem Holds.undo (h : s.Holds options P) (kept : Sheet.Kept options.limits P R) {applied : Bool}
    (undone : s.undo = some (s', applied)) : s'.Holds options R := by
  unfold Session.undo at undone
  split at undone
  · cases undone
    exact h.untouched kept
  · rename_i step history _
    have kept' : ({ s with history } : Session).Holds options P := h
    split at undone
    · rename_i reverted
      cases undone
      have back := kept'.revert kept reverted
      exact ⟨back.1, back.2⟩
    · cases undone
      exact h.untouched kept
    · cases undone

theorem Holds.redo (h : s.Holds options P) (kept : Sheet.Kept options.limits P R) {applied : Bool}
    (redone : s.redo = some (s', applied)) : s'.Holds options R := by
  unfold Session.redo at redone
  split at redone
  · cases redone
    exact h.untouched kept
  · rename_i step history _
    have kept' : ({ s with history } : Session).Holds options P := h
    split at redone
    · rename_i reverted
      cases redone
      have back := kept'.revert kept reverted
      exact ⟨back.1, back.2⟩
    · cases redone
      exact h.untouched kept
    · cases redone

theorem Holds.perform (h : s.Holds options P) (kept : Sheet.Kept options.limits P R) (op : Operation)
    {result : Session × Reply} (ok : s.perform op = .ok result) : result.1.Holds options R := by
  cases op with
  | addMatrix name =>
      obtain ⟨_, added, rfl⟩ := map_eq_ok.1 ok
      exact h.addMatrix kept (ofExcept_eq_ok.1 added)
  | removeMatrix name =>
      obtain ⟨_, removed, rfl⟩ := map_eq_ok.1 ok
      exact (h.untouched kept).removeMatrix (ofExcept_eq_ok.1 removed)
  | setCell name p raw cancelled =>
      obtain ⟨⟨_, _, _⟩, wrote, rfl⟩ := map_eq_ok.1 ok
      exact h.writeCells kept (setCell_ok wrote).1
  | setCells name edits =>
      obtain ⟨⟨_, _⟩, wrote, rfl⟩ := map_eq_ok.1 ok
      exact h.writeCells kept wrote
  | editLine name edit =>
      obtain ⟨⟨_, _⟩, edited, rfl⟩ := map_eq_ok.1 ok
      exact h.editLine kept edited
  | recalculate name cancelled =>
      obtain ⟨⟨_, _⟩, recalculated, rfl⟩ := map_eq_ok.1 ok
      exact h.recalculate kept recalculated
  | load snapshot =>
      obtain ⟨_, loaded, rfl⟩ := map_eq_ok.1 ok
      exact h.load kept loaded
  | undo =>
      obtain ⟨⟨_, _⟩, undone, rfl⟩ := map_eq_ok.1 ok
      exact h.undo kept (ofOption_eq_ok.1 undone)
  | redo =>
      obtain ⟨⟨_, _⟩, redone, rfl⟩ := map_eq_ok.1 ok
      exact h.redo kept (ofOption_eq_ok.1 redone)

theorem after_eq_some {op : Operation} (done : s.after op = some s') :
    (∃ reply, s.perform op = .ok (s', reply)) ∨ s' = s := by
  unfold Session.after at done
  split at done
  · rename_i reply ok
    cases done
    exact .inl ⟨reply, ok⟩
  · cases done
    exact .inr rfl
  · cases done

theorem Holds.after (h : s.Holds options P) (kept : Sheet.Kept options.limits P R) {op : Operation}
    (done : s.after op = some s') : s'.Holds options R := by
  rcases after_eq_some done with ⟨reply, ok⟩ | rfl
  · exact h.perform kept op ok
  · exact h.untouched kept

end

theorem run_concat (s : Session) (ops : List Operation) (op : Operation) :
    s.run (ops ++ [op]) = (s.run ops).bind fun t => t.after op := by
  unfold run
  rw [List.foldlM_append]
  refine Option.bind_congr fun t _ => ?_
  rw [List.foldlM_cons]
  cases t.after op <;> rfl

theorem run_take_succ (s : Session) {ops : List Operation} {n : Nat} (more : n < ops.length) :
    s.run (ops.take (n + 1)) = (s.run (ops.take n)).bind fun t => t.after ops[n] := by
  rw [List.take_succ_eq_append_getElem more, run_concat]

theorem Reachable.holds {options : Options} {s : Session} (h : Reachable options s) {P : Sheet → Prop}
    (kept : Sheet.Kept options.limits P) : s.Holds options P := by
  induction h with
  | create => exact ⟨rfl, fun _ mem => nomatch mem⟩
  | after op _ done ih => exact ih.after kept done

end Session

end Spreadsheet
