import Spreadsheet.Proofs.Sheet.Extent
import Spreadsheet.Proofs.Sheet.Rebuilding

namespace Spreadsheet

namespace Matrix

theorem texts_eq_toList (m : Matrix) : m.texts = (m.cells.map fun _ c => c.raw).toList := by
  rw [Std.ExtTreeMap.toList_map]
  rfl

theorem texts_eq_keys (m : Matrix) : m.texts = m.cells.keys.map fun p => (p, m.raw p) := by
  unfold texts
  rw [← Std.ExtTreeMap.map_fst_toList_eq_keys, List.map_map]
  refine List.map_congr_left fun ⟨p, c⟩ mem => ?_
  rw [Function.comp, raw_of_cell (Std.ExtTreeMap.mem_toList_iff_getElem?_eq_some.1 mem)]

section
variable {m m' : Matrix}

theorem texts_of_reread (h : m'.reread = m.reread) : m'.texts = m.texts := by
  rw [texts_eq_toList, texts_eq_toList]
  congr 1
  refine Std.ExtTreeMap.ext_getElem? fun p => ?_
  rw [Std.ExtTreeMap.getElem?_map, Std.ExtTreeMap.getElem?_map]
  exact text_of_reread h p

theorem raw_of_texts (h : m'.texts = m.texts) (p : Position) : m'.raw p = m.raw p := by
  rw [texts_eq_toList, texts_eq_toList, Std.ExtTreeMap.toList_inj] at h
  have text : (m'.cells.map fun _ c => c.raw)[p]? = (m.cells.map fun _ c => c.raw)[p]? := by rw [h]
  rw [Std.ExtTreeMap.getElem?_map, Std.ExtTreeMap.getElem?_map] at text
  rw [raw_eq_text, raw_eq_text, text]

theorem Storable.text_eq (h : m.Storable) (p : Position) :
    (m.cells[p]?).map Cell.raw = if m.raw p = "" then none else some (m.raw p) := by
  cases cell : m.cells[p]? with
  | none =>
      rw [raw, cell]
      rfl
  | some c => rw [raw_of_cell cell, if_neg (h.texts p c cell), Option.map_some]

theorem Storable.reread_eq (h : m.Storable) (h' : m'.Storable) (name : m'.name = m.name)
    (limits : m'.limits = m.limits) (rows : m'.rows = m.rows) (columns : m'.columns = m.columns)
    (raws : ∀ p, m'.raw p = m.raw p) : m'.reread = m.reread := by
  have cells : m'.reread.cells = m.reread.cells :=
    cells_reread_of_texts fun p => by rw [h.text_eq, h'.text_eq, raws]
  unfold reread at cells ⊢
  dsimp only at cells
  rw [cells, name, limits, rows, columns]

theorem raw_put (m : Matrix) (p q : Position) (raw : String) :
    (m.put p raw).raw q = if q = p then raw else m.raw q := by
  unfold Matrix.raw
  rw [put_at]
  by_cases same : q = p
  · rw [if_pos same, if_pos same]
    by_cases clear : raw = ""
    · rw [if_pos clear, clear]
      rfl
    · rw [if_neg clear]
      exact raw_ofRaw raw
  · rw [if_neg same, if_neg same]

theorem raw_putAll (m : Matrix) {texts : List (Position × String)} {q : Position} {raw : String}
    (agree : ∀ edit ∈ texts, edit.1 = q → edit.2 = raw) :
    (m.putAll texts).raw q = if q ∈ texts.map (·.1) then raw else m.raw q := by
  induction texts generalizing m with
  | nil => rfl
  | cons edit texts ih =>
      rw [List.forall_mem_cons] at agree
      show ((m.put edit.1 edit.2).putAll texts).raw q = _
      rw [ih _ agree.2, raw_put, List.map_cons]
      by_cases later : q ∈ texts.map (·.1)
      · rw [if_pos later, if_pos (List.mem_cons_of_mem _ later)]
      · by_cases same : q = edit.1
        · rw [if_neg later, if_pos same, if_pos (by simp [same]), agree.1 same.symm]
        · rw [if_neg later, if_neg same, if_neg (by simp [later, same])]

theorem raw_putAll_other (m : Matrix) {texts : List (Position × String)} {q : Position}
    (absent : ¬ q ∈ texts.map (·.1)) : (m.putAll texts).raw q = m.raw q := by
  have vacuous : ∀ edit ∈ texts, edit.1 = q → edit.2 = "" := fun edit mem same =>
    absurd (List.mem_map.2 ⟨edit, mem, same⟩) absent
  rw [raw_putAll m vacuous, if_neg absent]

theorem Storable.resize_back {m₁ : Matrix} (h : m.Storable) (h₁ : m₁.Storable)
    (name : m₁.name = m.name) (limits : m₁.limits = m.limits) (raws : ∀ p, m₁.raw p = m.raw p) :
    ∃ m', m₁.setDimensions m.rows m.columns = .ok m' ∧ m'.reread = m.reread := by
  have covered : ({ m₁ with rows := m.rows, columns := m.columns } : Matrix).Covered := by
    refine ⟨fun axis => ?_, fun p c cell axis => ?_⟩
    · have within := h.within axis
      rw [← limits] at within
      cases axis <;> exact within
    · have cell : m₁.cells[p]? = some c := cell
      have text := h.text_eq p
      rw [← raws p, raw_of_cell cell, if_neg (h₁.texts p c cell)] at text
      obtain ⟨c', before, _⟩ := Option.map_eq_some_iff.1 text
      have inside := h.covers p c' before axis
      cases axis <;> exact inside
  exact ⟨_, setDimensions_eq_ok.2 ⟨rfl, covered_resized_iff.1 covered⟩,
    h.reread_eq ⟨covered, h₁.named, h₁.texts⟩ name limits rfl rfl raws⟩

theorem Storable.put_back {m₀ : Matrix} (h : m.Storable) (h₀ : m₀.Storable) (name : m₀.name = m.name)
    (limits : m₀.limits = m.limits) {ps : List Position} (inside : ∀ p ∈ ps, m.limits.Contains p)
    (others : ∀ p, ¬ p ∈ ps → m₀.raw p = m.raw p) :
    ∃ m', (m₀.setTexts (ps.map fun p => (p, m.raw p)) >>= (·.setDimensions m.rows m.columns)) = .ok m' ∧
      m'.reread = m.reread := by
  have keys : (ps.map fun p => (p, m.raw p)).map (·.1) = ps := by
    rw [List.map_map]
    exact List.map_id ps
  have within : ∀ p ∈ (ps.map fun p => (p, m.raw p)).map (·.1), m₀.limits.Contains p := by
    rwa [keys, limits]
  obtain ⟨limits₁, name₁⟩ := putAll_frame m₀ (ps.map fun p => (p, m.raw p))
  rw [setTexts_eq_ok.2 ⟨rfl, within⟩]
  refine h.resize_back (h₀.putAll within) (name₁.trans name) (limits₁.trans limits) fun p => ?_
  have agree : ∀ edit ∈ ps.map fun p => (p, m.raw p), edit.1 = p → edit.2 = m.raw p := by
    intro edit mem same
    obtain ⟨q, _, rfl⟩ := List.mem_map.1 mem
    rw [← same]
  rw [raw_putAll m₀ agree, keys]
  split
  · rfl
  · rename_i absent
    exact others p absent

theorem Storable.put_back_all (h : m.Storable) {m₀ : Matrix} (empty : m₀.cells = ∅)
    (h₀ : m₀.Storable) (name : m₀.name = m.name) (limits : m₀.limits = m.limits) :
    ∃ m', (m₀.setTexts m.texts >>= (·.setDimensions m.rows m.columns)) = .ok m' ∧
      m'.reread = m.reread := by
  rw [texts_eq_keys]
  refine h.put_back h₀ name limits (fun p mem => ?_) fun p absent => ?_
  · obtain ⟨c, cell⟩ := (PositionMap.mem_keys_iff _ _).1 mem
    exact h.contains cell
  · rw [PositionMap.mem_keys_iff, ← Option.ne_none_iff_exists', not_not] at absent
    rw [raw, raw, empty, absent]
    rfl

end

end Matrix

namespace Sheet
variable {s s' t : Sheet}

/-! ## What a snapshot determines -/

theorem snapshot_of_reread (texts : s'.matrix.reread = s.matrix.reread)
    (circular : s'.circular = s.circular) : s'.snapshot = s.snapshot := by
  have rows : s'.matrix.rows = s.matrix.rows := Matrix.size_of_reread texts .row
  have columns : s'.matrix.columns = s.matrix.columns := Matrix.size_of_reread texts .column
  unfold snapshot Matrix.snapshot circularCells
  rw [circular, Matrix.name_of_reread texts, Matrix.texts_of_reread texts, rows, columns]

theorem raw_of_snapshot (h : s'.snapshot = s.snapshot) : ∀ p, s'.matrix.raw p = s.matrix.raw p :=
  Matrix.raw_of_texts (congrArg MatrixSnapshot.cells h)

theorem circularCells_of_snapshot (h : s'.snapshot = s.snapshot) : s'.circularCells = s.circularCells :=
  congrArg MatrixSnapshot.circular h

theorem isCircular_congr (h : s'.circularCells = s.circularCells) (p : Position) :
    s'.isCircular p = s.isCircular p := by
  rw [← contains_circularCells, ← contains_circularCells, h]

theorem Truthful.shown_of_snapshot (h : s.Truthful) (h' : s'.Truthful) (limits : s'.limits = s.limits)
    (same : s'.snapshot = s.snapshot) (p : Position) :
    (s'.view p).map CellView.shown = (s.view p).map CellView.shown :=
  h.shown_eq h' limits (raw_of_snapshot same) (isCircular_congr (circularCells_of_snapshot same)) p

theorem Truthful.shows_of_snapshot (h : s.Truthful) (h' : s'.Truthful) (limits : s'.limits = s.limits)
    (same : s'.snapshot = s.snapshot) : s'.Shows ↔ s.Shows :=
  shows_congr (h.shown_of_snapshot h' limits same)

theorem Sound.snapshot_rebuild (h : s.Sound) (texts : t.matrix.reread = s.matrix.reread)
    (literals : t.matrix.LiteralsRead) : (t.rebuild s.circularCells).snapshot = s.snapshot :=
  snapshot_of_reread ((reread_rebuild t _).trans texts) (h.rebuild_eq texts literals).2

theorem Sound.snapshot_recalcAll (h : s.Sound) {cancelled : Bool} {stats : RecalcStats}
    (ran : s.recalcAll cancelled = some (s', stats)) : s'.snapshot = s.snapshot := by
  obtain ⟨val, values⟩ := h.exists_values
  refine snapshot_of_reread (reread_recalcCells ran) ?_
  rw [recalcCells_eq h values (fun _ => mem_acceptedCells.1) fresh_of_all_stale ran]
  rfl

/-! ## Sheets under limits -/

structure Regular (limits : Limits) (s : Sheet) : Prop extends Truthful s where
  limits_eq : s.limits = limits
  storable : s.matrix.Storable

theorem Regular.shows_iff {limits : Limits} (h : s.Regular limits) (h' : s'.Regular limits)
    (same : s'.snapshot = s.snapshot) : s'.Shows ↔ s.Shows :=
  h.toTruthful.shows_of_snapshot h'.toTruthful (h'.limits_eq.trans h.limits_eq.symm) same

inductive Recalls (s t : Sheet) : Step → Prop
  | cells (description : String) {ps : List Position} (inside : ∀ p ∈ ps, s.limits.Contains p)
      (others : ∀ p, ¬ p ∈ ps → t.matrix.raw p = s.matrix.raw p) :
      Recalls s t (s.recordCells description ps)
  | matrix (description : String) : Recalls s t (s.recordMatrix description)

variable {limits : Limits}

theorem recordCells_of_snapshot (h : s'.snapshot = s.snapshot) (description : String)
    (ps : List Position) : s'.recordCells description ps = s.recordCells description ps := by
  have name : s'.name = s.name := congrArg MatrixSnapshot.name h
  have rows : s'.matrix.rows = s.matrix.rows := congrArg MatrixSnapshot.rows h
  have columns : s'.matrix.columns = s.matrix.columns := congrArg MatrixSnapshot.columns h
  unfold recordCells record
  rw [name, rows, columns, circularCells_of_snapshot h]
  simp only [raw_of_snapshot h]

theorem recordMatrix_of_snapshot (h : s'.snapshot = s.snapshot) (description : String) :
    s'.recordMatrix description = s.recordMatrix description := by
  have name : s'.name = s.name := congrArg MatrixSnapshot.name h
  have rows : s'.matrix.rows = s.matrix.rows := congrArg MatrixSnapshot.rows h
  have columns : s'.matrix.columns = s.matrix.columns := congrArg MatrixSnapshot.columns h
  unfold recordMatrix record
  rw [name, rows, columns, circularCells_of_snapshot h, h]

theorem Recalls.matrix_eq {step : Step} (h : s.Recalls t step) : step.matrix = s.name := by
  cases h <;> rfl

theorem Recalls.circular_eq {step : Step} (h : s.Recalls t step) : step.circular = s.circularCells := by
  cases h <;> rfl

theorem Recalls.restoreMatrix {step : Step} (h : s.Recalls t step) (hs : s.Regular limits)
    (hs' : s'.Regular limits) (name : s'.name = s.name)
    (raws : ∀ p, s'.matrix.raw p = t.matrix.raw p) :
    ∃ m, Sheet.restoreMatrix s'.matrix step = .ok m ∧ m.reread = s.matrix.reread := by
  have limits : s'.matrix.limits = s.matrix.limits := hs'.limits_eq.trans hs.limits_eq.symm
  cases h with
  | @cells _ ps inside others =>
      refine hs.storable.put_back hs'.storable name limits (fun p mem => ?_) fun p absent => ?_
      · rw [Std.ExtTreeSet.mem_toList, PositionSet.mem_ofList_iff] at mem
        exact inside p mem
      · rw [Std.ExtTreeSet.mem_toList, PositionSet.mem_ofList_iff] at absent
        rw [raws, others p absent]
  | matrix _ =>
      exact hs.storable.put_back_all rfl (Matrix.storable_clear hs'.storable.named) name limits

theorem mem_recorded {f : Position → String} {ps : List Position} {p : Position} :
    p ∈ (Std.ExtTreeSet.ofList ps : PositionSet).toList.map ((·.1) ∘ fun p => (p, f p)) ↔ p ∈ ps := by
  rw [show (·.1) ∘ (fun p => (p, f p)) = id from rfl, List.map_id, Std.ExtTreeSet.mem_toList,
    PositionSet.mem_ofList_iff]

theorem Recalls.restore {step : Step} (h : s.Recalls t step) (hs : s.Regular limits)
    (ht : t.Regular limits) (hs' : s'.Regular limits) (name : s.name = t.name)
    (same : s'.snapshot = t.snapshot) :
    (∃ u, s'.restore step = .ok u ∧ u.snapshot = s.snapshot) ∧ t.Recalls s (s'.inverseOf step) := by
  constructor
  · have name' : s'.name = s.name := (congrArg MatrixSnapshot.name same).trans name.symm
    obtain ⟨m, restored, texts⟩ := h.restoreMatrix hs hs' name' (raw_of_snapshot same)
    obtain ⟨tidy, _⟩ := restoreMatrix_ok hs'.toSound.tidy restored
    refine ⟨_, map_eq_ok.2 ⟨m, restored, rfl⟩, ?_⟩
    rw [h.circular_eq]
    exact hs.toSound.snapshot_rebuild texts tidy.literals
  · cases h with
    | @cells description ps inside others =>
        show t.Recalls s (s'.recordCells description _)
        rw [recordCells_of_snapshot same, List.map_map]
        refine .cells description (fun p mem => ?_) fun p absent => ?_
        · rw [ht.limits_eq, ← hs.limits_eq]
          exact inside p (mem_recorded.1 mem)
        · rw [others p fun mem => absent (mem_recorded.2 mem)]
    | matrix description =>
        show t.Recalls s (s'.recordMatrix description)
        rw [recordMatrix_of_snapshot same]
        exact .matrix description

theorem Regular.ofSnapshot (h : s.Regular limits) :
    ∃ u, Sheet.ofSnapshot s.snapshot limits = .ok u ∧ u.snapshot = s.snapshot := by
  have created : Matrix.create s.matrix.name limits = .ok { name := s.matrix.name, limits } :=
    map_eq_ok.2 ⟨(), h.storable.named, rfl⟩
  obtain ⟨m, back, texts⟩ := h.storable.put_back_all rfl (Matrix.storable_of_create created) rfl
    h.limits_eq.symm
  have read : s.snapshot.toMatrix limits = .ok m :=
    mapError_eq_ok.2 (bind_eq_ok.2 ⟨_, created, back⟩)
  exact ⟨_, map_eq_ok.2 ⟨m, read, rfl⟩,
    h.toSound.snapshot_rebuild (t := { matrix := m }) texts (toMatrix_ok read).1.literals⟩

end Sheet

end Spreadsheet
