import Spreadsheet.Proofs.Cell.Store
import Spreadsheet.Proofs.Data.Outcome
import Spreadsheet.Proofs.Grid.Axes
import Spreadsheet.Proofs.Sheet.Wiring

namespace Spreadsheet

namespace Matrix

structure Tidy (m : Matrix) : Prop where
  literals : m.LiteralsRead
  inside : ∀ (p : Position) (c : Cell), m.cells[p]? = some c → m.limits.Contains p

theorem checkLine_eq_ok {limits : Limits} {axis : Axis} {i : Nat} {u : Unit} :
    limits.checkLine axis i = .ok u ↔ i < limits.along axis := by
  unfold Limits.checkLine
  rw [guarded_eq_ok, Nat.not_le]
  exact and_iff_left rfl

theorem check_iff {limits : Limits} {p : Position} {u : Unit} :
    limits.check p = .ok u ↔ limits.Contains p := by
  show (limits.checkLine .row p.row >>= fun _ => limits.checkLine .column p.column) = _ ↔ _
  rw [bind_eq_ok]
  simp only [checkLine_eq_ok, exists_const]
  rfl

theorem Tidy.put {m : Matrix} (h : m.Tidy) {p : Position} (inside : m.limits.Contains p)
    (raw : String) : (m.put p raw).Tidy := by
  refine ⟨fun q c cell literal => ?_, fun q c cell => ?_⟩
  · rw [put_at] at cell
    split at cell
    · split at cell
      · cases cell
      · cases cell
        rw [raw_ofRaw]
    · exact h.literals q c cell literal
  · rw [(put_frame m p raw).1]
    rw [put_at] at cell
    split at cell
    · rename_i same
      rw [same]
      exact inside
    · exact h.inside q c cell

theorem Tidy.putAll {m : Matrix} (h : m.Tidy) {texts : List (Position × String)}
    (inside : ∀ p ∈ texts.map (·.1), m.limits.Contains p) : (m.putAll texts).Tidy := by
  induction texts generalizing m with
  | nil => exact h
  | cons edit texts ih =>
      rw [List.map_cons, List.forall_mem_cons] at inside
      refine ih (h.put inside.1 edit.2) ?_
      rw [(put_frame m _ _).1]
      exact inside.2

theorem setTexts_eq_ok {m m' : Matrix} {texts : List (Position × String)} :
    m.setTexts texts = .ok m' ↔
      m' = m.putAll texts ∧ ∀ p ∈ texts.map (·.1), m.limits.Contains p := by
  induction texts generalizing m with
  | nil =>
      constructor
      · intro ok
        cases ok
        exact ⟨rfl, by simp⟩
      · rintro ⟨rfl, _⟩
        rfl
  | cons edit texts ih =>
      unfold Matrix.setTexts at ih ⊢
      rw [List.foldlM_cons, List.map_cons, List.forall_mem_cons, bind_eq_ok]
      constructor
      · rintro ⟨_, stored, rest⟩
        obtain ⟨_, checked, rfl⟩ := map_eq_ok.1 stored
        obtain ⟨rfl, inside⟩ := ih.1 rest
        rw [(put_frame m _ _).1] at inside
        exact ⟨rfl, check_iff.1 checked, inside⟩
      · rintro ⟨rfl, here, inside⟩
        refine ⟨_, map_eq_ok.2 ⟨(), check_iff.2 here, rfl⟩, ih.2 ⟨rfl, ?_⟩⟩
        rw [(put_frame m _ _).1]
        exact inside

theorem Tidy.setTexts {m m' : Matrix} (h : m.Tidy) {texts : List (Position × String)}
    (set : m.setTexts texts = .ok m') : m'.Tidy ∧ m'.limits = m.limits ∧ m'.name = m.name := by
  obtain ⟨rfl, inside⟩ := setTexts_eq_ok.1 set
  exact ⟨h.putAll inside, putAll_frame m texts⟩

theorem tidy_of_empty {m : Matrix} (empty : m.cells = ∅) : m.Tidy := by
  refine ⟨fun p c cell => ?_, fun p c cell => ?_⟩
  · rw [empty] at cell
    cases cell
  · rw [empty] at cell
    cases cell

theorem setDimensions_eq_ok {m m' : Matrix} {rows columns : Nat} :
    m.setDimensions rows columns = .ok m' ↔
      m' = { m with rows, columns } ∧ (rows ≤ m.limits.rows ∧ columns ≤ m.limits.columns) ∧
        ∀ b, m.cells.bounds = some b → b.maxRow < rows ∧ b.maxColumn < columns := by
  unfold setDimensions
  rw [guarded_eq_ok, guarded_eq_ok]
  cases bounds : m.cells.bounds with
  | none =>
      constructor
      · rintro ⟨fewRows, fewColumns, ok⟩
        cases ok
        exact ⟨rfl, by omega, fun _ none => nomatch none⟩
      · rintro ⟨rfl, ⟨fewRows, fewColumns⟩, _⟩
        exact ⟨by omega, by omega, rfl⟩
  | some b =>
      dsimp only
      rw [guarded_eq_ok]
      constructor
      · rintro ⟨fewRows, fewColumns, covered, ok⟩
        cases ok
        refine ⟨rfl, by omega, fun b' same => ?_⟩
        cases same
        omega
      · rintro ⟨rfl, ⟨fewRows, fewColumns⟩, before⟩
        have last := before b rfl
        exact ⟨by omega, by omega, by omega, rfl⟩

theorem Tidy.setDimensions {m m' : Matrix} (h : m.Tidy) {rows columns : Nat}
    (set : m.setDimensions rows columns = .ok m') :
    m'.Tidy ∧ m'.limits = m.limits ∧ m'.name = m.name := by
  rw [(setDimensions_eq_ok.1 set).1]
  exact ⟨⟨h.literals, h.inside⟩, rfl, rfl⟩

/-! ## Line edits -/

theorem contains_iff_along {limits : Limits} {p : Position} :
    limits.Contains p ↔ ∀ axis, p.along axis < limits.along axis := by
  constructor
  · intro h axis
    cases axis with
    | row => exact h.1
    | column => exact h.2
  · intro h
    exact ⟨h .row, h .column⟩

theorem contains_withAlong {limits : Limits} {p : Position} {axis : Axis} {i : Nat}
    (inside : limits.Contains p) (within : i < limits.along axis) :
    limits.Contains (p.withAlong axis i) := by
  refine contains_iff_along.2 fun axis' => ?_
  rw [Position.along_withAlong]
  split
  · rename_i same
    exact same ▸ within
  · exact contains_iff_along.1 inside axis'

theorem withSize_frame (m : Matrix) (axis : Axis) (n : Nat) :
    (m.withSize axis n).cells = m.cells ∧ (m.withSize axis n).limits = m.limits ∧
      (m.withSize axis n).name = m.name := by
  cases axis <;> exact ⟨rfl, rfl, rfl⟩

theorem resized_frame (m : Matrix) (cells : CellStore) (axis : Axis) (wanted : Prop)
    [Decidable wanted] (n : Nat) :
    (if wanted then ({ m with cells := cells } : Matrix).withSize axis n
      else { m with cells := cells }).cells = cells ∧
    (if wanted then ({ m with cells := cells } : Matrix).withSize axis n
      else { m with cells := cells }).limits = m.limits ∧
    (if wanted then ({ m with cells := cells } : Matrix).withSize axis n
      else { m with cells := cells }).name = m.name := by
  split
  · exact withSize_frame _ axis n
  · exact ⟨rfl, rfl, rfl⟩

theorem insertLine_ok {m m' : Matrix} {axis : Axis} {k : Nat} (ok : m.insertLine axis k = .ok m') :
    (m'.cells = m.cells.insertLine axis k ∧ m'.limits = m.limits ∧ m'.name = m.name) ∧
      ∀ (p : Position) (c : Cell), m.cells[p]? = some c → k ≤ p.along axis →
        p.along axis + 1 < m.limits.along axis := by
  obtain ⟨_, _, ok⟩ := bind_eq_ok.1 (show _ >>= _ = _ from ok)
  obtain ⟨_, room, rfl⟩ := map_eq_ok.1 ok
  refine ⟨resized_frame m _ axis _ _, fun p c cell behind => ?_⟩
  obtain ⟨b, bounds, le⟩ := CellStore.bounds_last cell axis
  rw [bounds] at room
  dsimp only at room
  rw [if_pos (Nat.le_trans behind le)] at room
  have inside := checkLine_eq_ok.1 room
  omega

theorem deleteLine_ok {m m' : Matrix} {axis : Axis} {k : Nat} (ok : m.deleteLine axis k = .ok m') :
    m'.cells = m.cells.deleteLine axis k ∧ m'.limits = m.limits ∧ m'.name = m.name := by
  obtain ⟨_, _, rfl⟩ := map_eq_ok.1 ok
  exact resized_frame m _ axis _ _

theorem editLine_ok {m m' : Matrix} {edit : LineEdit} (inside : ∀ (p : Position) (c : Cell),
      m.cells[p]? = some c → m.limits.Contains p) (ok : m.editLine edit = .ok m') :
    m'.limits = m.limits ∧ m'.name = m.name ∧ ∀ (q : Position) (c : Cell), m'.cells[q]? = some c →
      m.limits.Contains q ∧ ∃ p : Position, m.cells[p]? = some c := by
  cases edit with
  | insert axis k =>
      obtain ⟨⟨cells, limits, name⟩, room⟩ := insertLine_ok ok
      refine ⟨limits, name, fun q c cell => ?_⟩
      rw [cells] at cell
      obtain ⟨p, stored, moved⟩ := CellStore.relocate_at cell
      cases moved
      refine ⟨contains_withAlong (inside p c stored) ?_, p, stored⟩
      by_cases behind : k ≤ p.along axis
      · rw [openedAt_of_le behind]
        exact room p c stored behind
      · rw [openedAt_of_lt (Nat.not_le.1 behind)]
        exact contains_iff_along.1 (inside p c stored) axis
  | delete axis k =>
      obtain ⟨cells, limits, name⟩ := deleteLine_ok ok
      refine ⟨limits, name, fun q c cell => ?_⟩
      rw [cells] at cell
      obtain ⟨p, stored, moved⟩ := CellStore.relocate_at cell
      obtain ⟨i, closed, rfl⟩ := Option.map_eq_some_iff.1 moved
      have before := contains_iff_along.1 (inside p c stored) axis
      have back : i ≤ p.along axis := by
        have origin := closedAt_eq_some_iff.1 closed
        omega
      exact ⟨contains_withAlong (inside p c stored) (Nat.lt_of_le_of_lt back before), p, stored⟩

theorem moveText_formula (edit : LineEdit) {raw : String} (formula : isFormulaText raw = true) :
    isFormulaText (Sheet.moveText edit raw) = true := by
  unfold Sheet.moveText
  rw [if_pos formula]
  split
  · rename_i e _
    cases e.moved? edit with
    | none => exact formula
    | some e' =>
        show isFormulaText e'.writeFormula = true
        unfold isFormulaText Expr.writeFormula
        rw [String.toList_ofList]
        rfl
  · exact formula

theorem Tidy.editLine {m m' : Matrix} (h : m.Tidy) {edit : LineEdit}
    (ok : m.editLine edit = .ok m') :
    ({ m' with cells := m'.cells.map fun _ c => { c with raw := Sheet.moveText edit c.raw } } :
      Matrix).Tidy := by
  obtain ⟨limits, _, cells⟩ := editLine_ok h.inside ok
  refine ⟨fun q c cell literal => ?_, fun q c cell => ?_⟩
  · dsimp only at cell
    rw [Std.ExtTreeMap.getElem?_map] at cell
    obtain ⟨c', stored, rfl⟩ := Option.map_eq_some_iff.1 cell
    obtain ⟨_, p, before⟩ := cells q c' stored
    have plain : isFormulaText c'.raw = false := by
      cases formula : isFormulaText c'.raw with
      | false => rfl
      | true =>
          have moved : isFormulaText (Sheet.moveText edit c'.raw) = false := literal
          rw [moveText_formula edit formula] at moved
          cases moved
    have same : Sheet.moveText edit c'.raw = c'.raw := by
      unfold Sheet.moveText
      rw [if_neg (by simp [plain])]
    rw [same]
    exact h.literals p c' before plain
  · dsimp only at cell
    rw [Std.ExtTreeMap.getElem?_map] at cell
    obtain ⟨c', stored, _⟩ := Option.map_eq_some_iff.1 cell
    show m'.limits.Contains q
    rw [limits]
    exact (cells q c' stored).1

end Matrix

end Spreadsheet
