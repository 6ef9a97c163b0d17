import Spreadsheet.Proofs.Sheet.Tidy
import Spreadsheet.Sheet.History

namespace Spreadsheet

namespace Sheet

structure Sound (s : Sheet) : Prop extends Wired s where
  blocked : s.Blocked
  inside : ∀ (p : Position) (c : Cell), s.matrix.cells[p]? = some c → s.limits.Contains p

theorem Settled.literal_read {entry : Entry} (h : entry.Settled) {c : Cell}
    (cell : entry.cell = some c) (literal : c.isFormula = false) : c = Cell.ofRaw c.raw := by
  cases h with
  | blank => cases cell
  | literal =>
      cases cell
      rw [Matrix.raw_ofRaw]
  | @unparseable c' _ formula =>
      cases cell
      exact absurd formula (by rw [show c'.isFormula = false from literal]; decide)
  | @circular c' _ formula =>
      cases cell
      exact absurd formula (by rw [show c'.isFormula = false from literal]; decide)
  | accepted formula =>
      cases cell
      exact absurd formula (by rw [literal]; decide)

theorem Sound.tidy {s : Sheet} (h : s.Sound) : s.matrix.Tidy :=
  ⟨fun p c cell literal => Settled.literal_read (h.settled p) (show (s.entry p).cell = some c from cell)
    literal, h.inside⟩

theorem rebuild_ok {s : Sheet} (tidy : s.matrix.Tidy) (circular : List Position) :
    (s.rebuild circular).Sound ∧ SameFrame s (s.rebuild circular) ∧
      ∀ p, ((s.rebuild circular).entry p).Pending := by
  obtain ⟨wired, blocked, pending⟩ := rebuild_spec tidy.literals circular
  have same := reread_rebuild s circular
  have inside : ∀ (p : Position) (c : Cell), (s.rebuild circular).matrix.cells[p]? = some c →
      (s.rebuild circular).limits.Contains p := by
    intro p c cell
    obtain ⟨c', before, _⟩ := Matrix.cell_of_reread same cell
    rw [limits_of_reread same]
    exact tidy.inside p c' before
  exact ⟨⟨wired, blocked, inside⟩, frame_of_reread same, pending⟩

theorem writeCells_sound {s : Sheet} (h : s.Sound) {edits : List (Position × String)}
    (inside : ∀ p ∈ edits.map (·.1), s.limits.Contains p) : (s.writeCells edits).1.Sound := by
  obtain ⟨wired, blocked, _⟩ := writeCells_spec h.toWired edits
  refine ⟨wired, blocked, fun p c cell => ?_⟩
  obtain ⟨c', before, _⟩ := Matrix.cell_of_reread (reread_retryAll _ (_, [])) cell
  rw [(frame_writeCells s edits).1]
  by_cases written : p ∈ edits.map (·.1)
  · exact inside p written
  · have same := congrArg Entry.cell ((writeAll_spec h.toWired edits).2 p written)
    exact h.inside p c' (same.symm.trans before)

theorem contains_of_forM {limits : Limits} {ps : List Position} {u : PUnit}
    (ok : ps.forM limits.check = .ok u) : ∀ p ∈ ps, limits.Contains p := by
  induction ps with
  | nil => simp
  | cons p ps ih =>
      unfold List.forM at ok
      obtain ⟨_, checked, rest⟩ := bind_eq_ok.1 ok
      intro q mem
      rcases List.mem_cons.1 mem with rfl | later
      · exact Matrix.check_iff.1 checked
      · exact ih rest q later

theorem write_ok {s s' : Sheet} {edits : List (Position × String)} {roots : List Position}
    (ok : s.write edits = .ok (s', roots)) :
    s.writeCells edits = (s', roots) ∧ ∀ p ∈ edits.map (·.1), s.limits.Contains p := by
  obtain ⟨_, checked, written⟩ := map_eq_ok.1 ok
  exact ⟨written, contains_of_forM checked⟩

theorem reread_write {s s' : Sheet} {edits : List (Position × String)} {roots : List Position}
    (ok : s.write edits = .ok (s', roots)) : s'.matrix.reread = s.matrix.reread.putAll edits := by
  rw [← reread_writeCells, (write_ok ok).1]

theorem frame_write {s s' : Sheet} {edits : List (Position × String)} {roots : List Position}
    (ok : s.write edits = .ok (s', roots)) : SameFrame s s' := by
  have frame := frame_writeCells s edits
  rwa [(write_ok ok).1] at frame

theorem editLine_ok {s s' : Sheet} {edit : LineEdit} (h : s.Sound) (ok : s.editLine edit = .ok s') :
    s'.Sound ∧ SameFrame s s' ∧ ∀ p, (s'.entry p).Pending := by
  obtain ⟨m, edited, rfl⟩ := map_eq_ok.1 ok
  have tidy := h.tidy.editLine edited
  obtain ⟨limits, name, _⟩ := Matrix.editLine_ok h.inside edited
  let moved : Sheet := { s with matrix := { m with
    cells := m.cells.map fun _ c => { c with raw := moveText edit c.raw } } }
  have kept : SameFrame s moved := ⟨limits, name⟩
  obtain ⟨sound, frame, pending⟩ := rebuild_ok (s := moved) tidy
    (s.circularCells.filterMap edit.movePosition)
  exact ⟨sound, kept.trans frame, pending⟩

theorem restoreMatrix_ok {m m' : Matrix} (h : m.Tidy) {step : Step}
    (ok : restoreMatrix m step = .ok m') : m'.Tidy ∧ m'.limits = m.limits ∧ m'.name = m.name := by
  unfold restoreMatrix at ok
  cases change : step.change with
  | cells texts =>
      rw [change] at ok
      obtain ⟨m₁, set, sized⟩ := bind_eq_ok.1 ok
      obtain ⟨tidy₁, limits₁, name₁⟩ := h.setTexts set
      obtain ⟨tidy, limits, name⟩ := tidy₁.setDimensions sized
      exact ⟨tidy, limits.trans limits₁, name.trans name₁⟩
  | matrix snapshot =>
      rw [change] at ok
      obtain ⟨m₁, set, sized⟩ := bind_eq_ok.1 ok
      obtain ⟨tidy₁, limits₁, name₁⟩ := (Matrix.tidy_of_empty (m := m.clear) rfl).setTexts set
      obtain ⟨tidy, limits, name⟩ := tidy₁.setDimensions sized
      exact ⟨tidy, limits.trans limits₁, name.trans name₁⟩

theorem restore_ok {s s' : Sheet} {step : Step} (h : s.Sound) (ok : s.restore step = .ok s') :
    s'.Sound ∧ SameFrame s s' ∧ ∀ p, (s'.entry p).Pending := by
  obtain ⟨m, restored, rfl⟩ := map_eq_ok.1 ok
  obtain ⟨tidy, limits, name⟩ := restoreMatrix_ok h.tidy restored
  let bare : Sheet := { s with matrix := m }
  have kept : SameFrame s bare := ⟨limits, name⟩
  obtain ⟨sound, frame, pending⟩ := rebuild_ok (s := bare) tidy step.circular
  exact ⟨sound, kept.trans frame, pending⟩

theorem ofMatrix_sound {m : Matrix} (tidy : m.Tidy) (circular : List Position) :
    (ofMatrix m circular).Sound ∧ (ofMatrix m circular).limits = m.limits ∧
      (ofMatrix m circular).name = m.name ∧ ∀ p, ((ofMatrix m circular).entry p).Pending := by
  obtain ⟨sound, frame, pending⟩ := rebuild_ok (s := { matrix := m }) tidy circular
  exact ⟨sound, frame.1, frame.2, pending⟩

theorem create_ok {name : String} {limits : Limits} {s : Sheet} (ok : create name limits = .ok s) :
    s.Sound ∧ s.limits = limits ∧ s.name = name ∧ ∀ p, (s.entry p).Pending := by
  obtain ⟨_, created, rfl⟩ := map_eq_ok.1 ok
  obtain ⟨_, _, rfl⟩ := map_eq_ok.1 created
  exact ofMatrix_sound (Matrix.tidy_of_empty rfl) []

theorem toMatrix_ok {snapshot : MatrixSnapshot} {limits : Limits} {m : Matrix}
    (ok : snapshot.toMatrix limits = .ok m) : m.Tidy ∧ m.limits = limits ∧ m.name = snapshot.name := by
  obtain ⟨_, created, read⟩ := bind_eq_ok.1 (mapError_eq_ok.1 ok)
  obtain ⟨_, _, rfl⟩ := map_eq_ok.1 created
  obtain ⟨m₁, set, sized⟩ := bind_eq_ok.1 read
  obtain ⟨tidy₁, limits₁, name₁⟩ := (Matrix.tidy_of_empty rfl).setTexts set
  obtain ⟨tidy, limits₂, name₂⟩ := tidy₁.setDimensions sized
  exact ⟨tidy, limits₂.trans limits₁, name₂.trans name₁⟩

theorem ofSnapshot_ok {snapshot : MatrixSnapshot} {limits : Limits} {s : Sheet}
    (ok : ofSnapshot snapshot limits = .ok s) :
    s.Sound ∧ s.limits = limits ∧ s.name = snapshot.name ∧ ∀ p, (s.entry p).Pending := by
  obtain ⟨m, read, rfl⟩ := map_eq_ok.1 ok
  obtain ⟨tidy, limits₁, name₁⟩ := toMatrix_ok read
  obtain ⟨sound, limits₂, name₂, pending⟩ := ofMatrix_sound tidy snapshot.circular
  exact ⟨sound, limits₂.trans limits₁, name₂.trans name₁, pending⟩

end Sheet

end Spreadsheet
