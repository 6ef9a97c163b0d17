import Spreadsheet.Proofs.Sheet.Sound

namespace Spreadsheet

namespace Matrix

structure Covered (m : Matrix) : Prop where
  within : ∀ axis, m.size axis ≤ m.limits.along axis
  covers : ∀ (p : Position) (c : Cell), m.cells[p]? = some c → ∀ axis, p.along axis < m.size axis

theorem Covered.contains {m : Matrix} (h : m.Covered) {p : Position} {c : Cell}
    (cell : m.cells[p]? = some c) : m.limits.Contains p :=
  contains_iff_along.2 fun axis => Nat.lt_of_lt_of_le (h.covers p c cell axis) (h.within axis)

theorem covered_clear (m : Matrix) : m.clear.Covered := by
  refine ⟨fun axis => ?_, fun p c cell => nomatch cell⟩
  cases axis <;> exact Nat.zero_le _

theorem size_put (m : Matrix) (p : Position) (raw : String) (axis : Axis) :
    (m.put p raw).size axis =
      if raw = "" then m.size axis else max (m.size axis) (p.along axis + 1) := by
  unfold put
  split
  · cases axis <;> rfl
  · cases axis <;> rfl

theorem Covered.put {m : Matrix} (h : m.Covered) {p : Position} (inside : m.limits.Contains p)
    (raw : String) : (m.put p raw).Covered := by
  have room := contains_iff_along.1 inside
  refine ⟨fun axis => ?_, fun q c cell axis => ?_⟩
  · rw [size_put, (put_frame m p raw).1]
    have within := h.within axis
    have here := room axis
    split <;> omega
  · rw [put_at] at cell
    rw [size_put]
    split at cell
    · rename_i same
      rw [same]
      split
      · rename_i clear
        rw [if_pos clear] at cell
        cases cell
      · omega
    · have before := h.covers q c cell axis
      split <;> omega

theorem covered_resized_iff {m : Matrix} {rows columns : Nat} :
    ({ m with rows, columns } : Matrix).Covered ↔
      (rows ≤ m.limits.rows ∧ columns ≤ m.limits.columns) ∧
        ∀ b, m.cells.bounds = some b → b.maxRow < rows ∧ b.maxColumn < columns := by
  constructor
  · intro h
    refine ⟨⟨h.within .row, h.within .column⟩, fun b bounds => ⟨?_, ?_⟩⟩
    · exact (CellStore.last_lt_iff bounds .row rows).2 fun p c cell => h.covers p c cell .row
    · exact (CellStore.last_lt_iff bounds .column columns).2 fun p c cell => h.covers p c cell .column
  · rintro ⟨⟨fewRows, fewColumns⟩, before⟩
    refine ⟨fun axis => ?_, fun p c cell axis => ?_⟩
    · cases axis with
      | row => exact fewRows
      | column => exact fewColumns
    · obtain ⟨b, bounds, le⟩ := CellStore.bounds_last cell axis
      have last := before b bounds
      cases axis with
      | row => exact Nat.lt_of_le_of_lt le last.1
      | column => exact Nat.lt_of_le_of_lt le last.2

/-! ## Line edits -/

theorem size_withSize (m : Matrix) (axis axis' : Axis) (n : Nat) :
    (m.withSize axis n).size axis' = if axis' = axis then n else m.size axis' := by
  cases axis <;> cases axis' <;> rfl

theorem size_resized (m : Matrix) (cells : CellStore) (axis axis' : Axis) (wanted : Prop)
    [Decidable wanted] (n : Nat) :
    (if wanted then ({ m with cells := cells } : Matrix).withSize axis n
      else { m with cells := cells }).size axis' =
      if axis' = axis ∧ wanted then n else m.size axis' := by
  have plain : ({ m with cells := cells } : Matrix).size axis' = m.size axis' := by
    cases axis' <;> rfl
  by_cases grow : wanted
  · rw [if_pos grow, size_withSize, plain]
    simp [grow]
  · rw [if_neg grow, plain]
    simp [grow]

theorem size_insertLine {m m' : Matrix} {axis : Axis} {k : Nat} (ok : m.insertLine axis k = .ok m')
    (axis' : Axis) : m'.size axis' =
      if axis' = axis ∧ k < m.size axis then min (m.size axis + 1) (m.limits.along axis)
      else m.size axis' := by
  obtain ⟨_, _, ok⟩ := bind_eq_ok.1 (show _ >>= _ = _ from ok)
  obtain ⟨_, _, rfl⟩ := map_eq_ok.1 ok
  exact size_resized m _ axis axis' _ _

theorem size_deleteLine {m m' : Matrix} {axis : Axis} {k : Nat} (ok : m.deleteLine axis k = .ok m')
    (axis' : Axis) : m'.size axis' =
      if axis' = axis ∧ k < m.size axis then m.size axis - 1 else m.size axis' := by
  obtain ⟨_, _, rfl⟩ := map_eq_ok.1 ok
  exact size_resized m _ axis axis' _ _

theorem Covered.insertLine {m m' : Matrix} (h : m.Covered) {axis : Axis} {k : Nat}
    (ok : m.insertLine axis k = .ok m') : m'.Covered := by
  obtain ⟨⟨cells, limits, _⟩, room⟩ := insertLine_ok ok
  refine ⟨fun axis' => ?_, fun q c cell axis' => ?_⟩
  · rw [size_insertLine ok, limits]
    have within := h.within axis'
    split
    · rename_i grown
      rw [grown.1]
      omega
    · exact within
  · rw [cells] at cell
    obtain ⟨p, stored, moved⟩ := CellStore.relocate_at cell
    cases moved
    have before := h.covers p c stored axis'
    rw [size_insertLine ok, Position.along_withAlong]
    by_cases same : axis' = axis
    · subst same
      have within := h.within axis'
      have beyond := room p c stored
      simp only [if_true, true_and, openedAt]
      split <;> split <;> omega
    · simp only [same, false_and, if_false]
      exact before

theorem Covered.deleteLine {m m' : Matrix} (h : m.Covered) {axis : Axis} {k : Nat}
    (ok : m.deleteLine axis k = .ok m') : m'.Covered := by
  obtain ⟨cells, limits, _⟩ := deleteLine_ok ok
  refine ⟨fun axis' => ?_, fun q c cell axis' => ?_⟩
  · rw [size_deleteLine ok, limits]
    have within := h.within axis'
    split
    · rename_i shrunk
      rw [shrunk.1] at within ⊢
      omega
    · exact within
  · rw [cells] at cell
    obtain ⟨p, stored, moved⟩ := CellStore.relocate_at cell
    obtain ⟨i, closed, rfl⟩ := Option.map_eq_some_iff.1 moved
    have before := h.covers p c stored axis'
    rw [size_deleteLine ok, Position.along_withAlong]
    by_cases same : axis' = axis
    · subst same
      have origin := closedAt_eq_some_iff.1 closed
      simp only [if_true, true_and]
      split <;> omega
    · simp only [same, false_and, if_false]
      exact before

theorem Covered.editLine {m m' : Matrix} (h : m.Covered) {edit : LineEdit}
    (ok : m.editLine edit = .ok m') : m'.Covered := by
  cases edit with
  | insert axis k => exact h.insertLine ok
  | delete axis k => exact h.deleteLine ok

/-! ## Matrices that can be stored -/

structure Storable (m : Matrix) : Prop extends Covered m where
  named : checkMatrixName m.name = .ok ()
  texts : ∀ (p : Position) (c : Cell), m.cells[p]? = some c → c.raw ≠ ""

theorem storable_clear {m : Matrix} (named : checkMatrixName m.name = .ok ()) : m.clear.Storable :=
  ⟨covered_clear m, named, fun _ _ cell => nomatch cell⟩

theorem storable_of_create {name : String} {limits : Limits} {m : Matrix}
    (created : create name limits = .ok m) : m.Storable := by
  obtain ⟨_, named, rfl⟩ := map_eq_ok.1 created
  exact storable_clear (m := { name, limits }) named

theorem Storable.put {m : Matrix} (h : m.Storable) {p : Position} (inside : m.limits.Contains p)
    (raw : String) : (m.put p raw).Storable := by
  refine ⟨h.toCovered.put inside raw, ?_, fun q c cell => ?_⟩
  · rw [(put_frame m p raw).2]
    exact h.named
  · rw [put_at] at cell
    split at cell
    · split at cell
      · cases cell
      · rename_i some
        cases cell
        rwa [raw_ofRaw]
    · exact h.texts q c cell

theorem Storable.of_reread {m m' : Matrix} (h : m.Storable) (same : m'.reread = m.reread) :
    m'.Storable := by
  refine ⟨⟨fun axis => ?_, fun p c' cell axis => ?_⟩, ?_, fun p c' cell => ?_⟩
  · rw [size_of_reread same, limits_of_reread same]
    exact h.within axis
  · obtain ⟨c, before, _⟩ := cell_of_reread same cell
    rw [size_of_reread same]
    exact h.covers p c before axis
  · rw [name_of_reread same]
    exact h.named
  · obtain ⟨c, before, raw⟩ := cell_of_reread same cell
    rw [raw]
    exact h.texts p c before

theorem moveText_ne_empty (edit : LineEdit) {raw : String} (some : raw ≠ "") :
    Sheet.moveText edit raw ≠ "" := by
  cases formula : isFormulaText raw with
  | true =>
      intro empty
      have moved := moveText_formula edit formula
      rw [empty] at moved
      exact absurd moved (by decide)
  | false =>
      unfold Sheet.moveText
      rwa [if_neg (by simp [formula])]

theorem Storable.editLine {m m' : Matrix} (h : m.Storable) {edit : LineEdit}
    (ok : m.editLine edit = .ok m') :
    ({ m' with cells := m'.cells.map fun _ c => { c with raw := Sheet.moveText edit c.raw } } :
      Matrix).Storable := by
  have covered := h.toCovered.editLine ok
  obtain ⟨_, name, cells⟩ := editLine_ok (fun p c cell => h.contains cell) ok
  have moved : ∀ (p : Position) (c : Cell),
      (m'.cells.map fun _ c => { c with raw := Sheet.moveText edit c.raw })[p]? = some c →
        ∃ c', m'.cells[p]? = some c' ∧ c.raw = Sheet.moveText edit c'.raw := by
    intro p c cell
    rw [Std.ExtTreeMap.getElem?_map] at cell
    obtain ⟨c', stored, rfl⟩ := Option.map_eq_some_iff.1 cell
    exact ⟨c', stored, rfl⟩
  refine ⟨⟨fun axis => ?_, fun p c cell axis => ?_⟩, ?_, fun p c cell => ?_⟩
  · have within := covered.within axis
    cases axis <;> exact within
  · obtain ⟨c', stored, _⟩ := moved p c cell
    have before := covered.covers p c' stored axis
    cases axis <;> exact before
  · show checkMatrixName m'.name = .ok ()
    rw [name]
    exact h.named
  · obtain ⟨c', stored, raw⟩ := moved p c cell
    obtain ⟨_, q, before⟩ := cells p c' stored
    rw [raw]
    exact moveText_ne_empty edit (h.texts q c' before)

/-! ## Storing many texts -/

theorem Storable.putAll {m : Matrix} (h : m.Storable) {texts : List (Position × String)}
    (inside : ∀ p ∈ texts.map (·.1), m.limits.Contains p) : (m.putAll texts).Storable := by
  induction texts generalizing m with
  | nil => exact h
  | cons edit texts ih =>
      rw [List.map_cons, List.forall_mem_cons] at inside
      refine ih (h.put inside.1 edit.2) ?_
      rw [(put_frame m _ _).1]
      exact inside.2

theorem Storable.put_sized {m m' : Matrix} (h : m.Storable) {texts : List (Position × String)}
    {rows columns : Nat} (ok : (m.setTexts texts >>= (·.setDimensions rows columns)) = .ok m') :
    m'.Storable := by
  obtain ⟨m₁, set, sized⟩ := bind_eq_ok.1 ok
  obtain ⟨rfl, inside⟩ := setTexts_eq_ok.1 set
  obtain ⟨rfl, covers⟩ := setDimensions_eq_ok.1 sized
  have stored := h.putAll inside
  exact ⟨covered_resized_iff.2 covers, stored.named, stored.texts⟩

end Matrix

/-! ## Sheets -/

namespace Sheet
variable {limits : Limits} {s s' : Sheet}

theorem create_storable {name : String} (ok : create name limits = .ok s) : s.matrix.Storable := by
  obtain ⟨m, created, rfl⟩ := map_eq_ok.1 ok
  exact (Matrix.storable_of_create created).of_reread (reread_rebuild { matrix := m } [])

theorem ofSnapshot_storable {snapshot : MatrixSnapshot} (ok : ofSnapshot snapshot limits = .ok s) :
    s.matrix.Storable := by
  obtain ⟨m, read, rfl⟩ := map_eq_ok.1 ok
  obtain ⟨_, created, read⟩ := bind_eq_ok.1 (mapError_eq_ok.1 read)
  exact ((Matrix.storable_of_create created).put_sized read).of_reread
    (reread_rebuild { matrix := m } snapshot.circular)

theorem write_storable (h : s.matrix.Storable) {edits : List (Position × String)}
    {roots : List Position} (ok : s.write edits = .ok (s', roots)) : s'.matrix.Storable := by
  have stored := (h.of_reread s.matrix.reread_reread).putAll (write_ok ok).2
  rw [← reread_write ok] at stored
  exact stored.of_reread s'.matrix.reread_reread.symm

theorem editLine_storable (h : s.matrix.Storable) {edit : LineEdit} (ok : s.editLine edit = .ok s') :
    s'.matrix.Storable := by
  obtain ⟨m, edited, rfl⟩ := map_eq_ok.1 ok
  exact (h.editLine edited).of_reread (reread_rebuild _ _)

theorem restore_storable (h : s.matrix.Storable) {step : Step} (ok : s.restore step = .ok s') :
    s'.matrix.Storable := by
  obtain ⟨m, restored, rfl⟩ := map_eq_ok.1 ok
  unfold restoreMatrix at restored
  have stored : m.Storable := by
    cases change : step.change with
    | cells texts =>
        rw [change] at restored
        exact h.put_sized restored
    | matrix snapshot =>
        rw [change] at restored
        exact (Matrix.storable_clear h.named).put_sized restored
  exact stored.of_reread (reread_rebuild _ _)

end Sheet

end Spreadsheet
