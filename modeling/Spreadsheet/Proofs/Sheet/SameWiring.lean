import Spreadsheet.Proofs.Cell.Lines
import Spreadsheet.Proofs.Sheet.Restoring
import Spreadsheet.Proofs.Sheet.Shifting

namespace Spreadsheet

namespace Matrix

section
variable {m m' : Matrix}

theorem keys_of_reread (h : m'.reread = m.reread) : m'.cells.keys = m.cells.keys := by
  have keys : ∀ m : Matrix, m.texts.map (·.1) = m.cells.keys := by
    intro m
    rw [texts_eq_keys, List.map_map]
    exact List.map_id _
  rw [← keys, ← keys, texts_of_reread h]

theorem bounds_of_reread (h : m'.reread = m.reread) : m'.cells.bounds = m.cells.bounds := by
  unfold CellStore.bounds
  rw [keys_of_reread h]

theorem formulaCells_of_reread (h : m'.reread = m.reread) : m'.formulaCells = m.formulaCells := by
  have listed : ∀ m : Matrix, m.formulaCells = (m.texts.filter (isFormulaText ·.2)).map (·.1) := by
    intro m
    unfold texts formulaCells
    rw [List.filter_map, List.map_map]
    rfl
  rw [listed, listed, texts_of_reread h]

theorem exists_cells (h : m'.reread = m.reread) : ∃ cells : CellStore, m' = { m with cells } ∧
    ∀ p : Position, (cells[p]?).map Cell.raw = (m.cells[p]?).map Cell.raw := by
  refine ⟨m'.cells, ?_, text_of_reread h⟩
  have rows : m'.rows = m.rows := size_of_reread h .row
  have columns : m'.columns = m.columns := size_of_reread h .column
  rw [← name_of_reread h, ← limits_of_reread h, ← rows, ← columns]

theorem reread_cells {cells cells' : CellStore}
    (texts : ∀ p : Position, (cells'[p]?).map Cell.raw = (cells[p]?).map Cell.raw) (m : Matrix) :
    ({ m with cells := cells' } : Matrix).reread = ({ m with cells } : Matrix).reread := by
  have read : ({ m with cells := cells' } : Matrix).reread.cells = ({ m with cells } : Matrix).reread.cells :=
    cells_reread_of_texts texts
  exact congrArg (fun cells => { m with cells }) read

/-! ## Storing texts -/

theorem reread_put_congr (h : m'.reread = m.reread) (p : Position) (raw : String) :
    (m'.put p raw).reread = (m.put p raw).reread := by
  rw [reread_put, reread_put, h]

theorem matched_setTexts (h : m'.reread = m.reread) (texts : List (Position × String)) :
    Matched (fun a b => b.reread = a.reread) (m.setTexts texts) (m'.setTexts texts) := by
  induction texts generalizing m m' with
  | nil => exact h
  | cons edit texts ih =>
      unfold setTexts at ih ⊢
      rw [List.foldlM_cons, List.foldlM_cons]
      have stored : Matched (fun a b => b.reread = a.reread) (m.setRaw edit.1 edit.2)
          (m'.setRaw edit.1 edit.2) := by
        unfold setRaw
        rw [limits_of_reread h]
        exact (Matched.of_eq rfl fun _ => rfl).map fun _ _ _ _ _ => reread_put_congr h _ _
      exact stored.bind fun _ _ _ _ same => ih same

theorem matched_setDimensions (h : m'.reread = m.reread) (rows columns : Nat) :
    Matched (fun a b => b.reread = a.reread) (m.setDimensions rows columns)
      (m'.setDimensions rows columns) := by
  have bounds := bounds_of_reread h
  obtain ⟨cells, rfl, texts⟩ := exists_cells h
  have sized := reread_cells texts { m with rows, columns }
  unfold setDimensions
  rw [bounds]
  dsimp only
  split
  · exact rfl
  split
  · exact rfl
  split
  · split
    · exact rfl
    · exact sized
  · exact sized

theorem clear_of_reread (h : m'.reread = m.reread) : m'.clear = m.clear := by
  unfold clear
  rw [name_of_reread h, limits_of_reread h]

/-! ## Line edits -/

theorem text_relocate {s s' : CellStore} {f : Position → Option Position}
    (injective : ∀ a b q, f a = some q → f b = some q → a = b)
    (texts : ∀ p : Position, (s'[p]?).map Cell.raw = (s[p]?).map Cell.raw) (q : Position) :
    ((s'.relocate f)[q]?).map Cell.raw = ((s.relocate f)[q]?).map Cell.raw := by
  have moved : ∀ (s : CellStore) raw, ((s.relocate f)[q]?).map Cell.raw = some raw ↔
      ∃ p, f p = some q ∧ (s[p]?).map Cell.raw = some raw := by
    intro s raw
    simp only [Option.map_eq_some_iff, CellStore.relocate_at_iff injective]
    constructor
    · rintro ⟨c, ⟨p, stored, moved⟩, same⟩
      exact ⟨p, moved, c, stored, same⟩
    · rintro ⟨p, moved, c, stored, same⟩
      exact ⟨c, ⟨p, stored, moved⟩, same⟩
  apply Option.ext
  intro raw
  simp only [moved, texts]

theorem reread_resized {cells cells' : CellStore} {wanted : Prop} [Decidable wanted]
    (texts : ∀ p : Position, (cells'[p]?).map Cell.raw = (cells[p]?).map Cell.raw) (m : Matrix) (axis : Axis)
    (n : Nat) :
    (if wanted then ({ m with cells := cells' } : Matrix).withSize axis n
      else { m with cells := cells' }).reread =
    (if wanted then ({ m with cells } : Matrix).withSize axis n else { m with cells }).reread := by
  split
  · cases axis with
    | row => exact reread_cells texts { m with rows := n }
    | column => exact reread_cells texts { m with columns := n }
  · exact reread_cells texts m

theorem matched_editLine (h : m'.reread = m.reread) (edit : LineEdit) :
    Matched (fun a b => b.reread = a.reread) (m.editLine edit) (m'.editLine edit) := by
  have bounds := bounds_of_reread h
  have size := size_of_reread h
  obtain ⟨cells, rfl, texts⟩ := exists_cells h
  cases edit with
  | insert axis k =>
      show Matched _ (m.insertLine axis k) (insertLine { m with cells } axis k)
      unfold insertLine
      rw [bounds, size]
      refine Matched.bind (.of_eq rfl fun _ => rfl) fun _ _ _ _ _ => ?_
      refine Matched.map (.of_eq rfl fun _ => rfl) fun _ _ _ _ _ => ?_
      exact reread_resized (text_relocate (f := (LineEdit.insert axis k).shift)
        (fun _ _ _ => LineEdit.shift_injective) texts) m axis _
  | delete axis k =>
      show Matched _ (m.deleteLine axis k) (deleteLine { m with cells } axis k)
      unfold deleteLine
      rw [size]
      refine Matched.map (.of_eq rfl fun _ => rfl) fun _ _ _ _ _ => ?_
      exact reread_resized (text_relocate (f := (LineEdit.delete axis k).shift)
        (fun _ _ _ => LineEdit.shift_injective) texts) m axis _

end

end Matrix

namespace Sheet

structure SameWiring (s s' : Sheet) : Prop where
  texts : s'.matrix.reread = s.matrix.reread
  formulas : s'.formulas = s.formulas
  circular : s'.circular = s.circular
  graph : s'.graph = s.graph

section
variable {s s' t : Sheet}

theorem SameWiring.refl (s : Sheet) : SameWiring s s := ⟨rfl, rfl, rfl, rfl⟩

theorem SameWiring.symm (h : SameWiring s s') : SameWiring s' s :=
  ⟨h.texts.symm, h.formulas.symm, h.circular.symm, h.graph.symm⟩

theorem SameWiring.trans (h : SameWiring s s') (h' : SameWiring s' t) : SameWiring s t :=
  ⟨h'.texts.trans h.texts, h'.formulas.trans h.formulas, h'.circular.trans h.circular,
    h'.graph.trans h.graph⟩

theorem SameWiring.limits (h : SameWiring s s') : s'.limits = s.limits := limits_of_reread h.texts

theorem SameWiring.name (h : SameWiring s s') : s'.name = s.name := Matrix.name_of_reread h.texts

theorem SameWiring.snapshot (h : SameWiring s s') : s'.snapshot = s.snapshot :=
  snapshot_of_reread h.texts h.circular

theorem SameWiring.circularCells (h : SameWiring s s') : s'.circularCells = s.circularCells :=
  circularCells_of_snapshot h.snapshot

/-! ## Wiring -/

theorem SameWiring.detach (h : SameWiring s s') (p : Position) : SameWiring (s.detach p) (s'.detach p) := by
  refine ⟨h.texts, ?_, ?_, ?_⟩ <;> unfold Sheet.detach <;> dsimp only
  · rw [h.formulas]
  · rw [h.circular]
  · rw [h.graph]

theorem SameWiring.showError (h : SameWiring s s') (p : Position) (code : ErrorCode)
    (diagnostic : String) : SameWiring (s.showError p code diagnostic) (s'.showError p code diagnostic) := by
  refine ⟨?_, h.formulas, h.circular, h.graph⟩
  rw [reread_showError, reread_showError, h.texts]

theorem SameWiring.accept (h : SameWiring s s') (p : Position) (e : Expr) :
    SameWiring (s.accept p e) (s'.accept p e) := by
  refine ⟨?_, ?_, h.circular, ?_⟩
  · rw [reread_accept, reread_accept, h.texts]
  · unfold Sheet.accept
    rw [h.formulas]
  · unfold Sheet.accept
    rw [h.graph, h.limits]

theorem SameWiring.refuse (h : SameWiring s s') (p : Position) (e : Expr) :
    SameWiring (s.refuse p e) (s'.refuse p e) := by
  obtain ⟨texts, formulas, _, graph⟩ := h.showError p .circular circularDiagnostic
  refine ⟨texts, formulas, ?_, graph⟩
  show s'.circular.insert p e = s.circular.insert p e
  rw [h.circular]

theorem SameWiring.closesCycle (h : SameWiring s s') (p : Position) (e : Expr) :
    s'.closesCycle p e = s.closesCycle p e := by
  unfold Sheet.closesCycle
  rw [h.graph, h.limits]

theorem SameWiring.attach (h : SameWiring s s') (forced : Bool) (p : Position) :
    SameWiring (s.attach forced p) (s'.attach forced p) := by
  unfold Sheet.attach
  rw [Matrix.raw_of_reread h.texts]
  split
  · exact h.showError p _ _
  · rw [h.closesCycle]
    split
    · exact h.refuse p _
    · exact h.accept p _

theorem SameWiring.attachAll (h : SameWiring s s') (forced : Bool) (ps : List Position) :
    SameWiring (ps.foldl (Sheet.attach · forced) s) (ps.foldl (Sheet.attach · forced) s') := by
  induction ps generalizing s s' with
  | nil => exact h
  | cons p ps ih => exact ih (h.attach forced p)

theorem SameWiring.retryAll (h : SameWiring s s') (ps healed : List Position) :
    SameWiring (ps.foldl retryCell (s, healed)).1 (ps.foldl retryCell (s', healed)).1 ∧
      (ps.foldl retryCell (s', healed)).2 = (ps.foldl retryCell (s, healed)).2 := by
  induction ps generalizing s s' healed with
  | nil => exact ⟨h, rfl⟩
  | cons p ps ih =>
      rw [List.foldl_cons, List.foldl_cons]
      unfold retryCell
      dsimp only
      rw [h.circular]
      cases s.circular[p]? with
      | none => exact ih h healed
      | some e =>
          dsimp only
          rw [h.closesCycle]
          split
          · exact ih h healed
          · have erased : SameWiring { s with circular := s.circular.erase p }
                { s' with circular := s.circular.erase p } := ⟨h.texts, h.formulas, rfl, h.graph⟩
            exact ih (erased.accept p e) _

theorem SameWiring.retryCircular (h : SameWiring s s') :
    SameWiring s.retryCircular.1 s'.retryCircular.1 ∧ s'.retryCircular.2 = s.retryCircular.2 := by
  unfold Sheet.retryCircular
  rw [h.circularCells]
  exact h.retryAll _ []

theorem SameWiring.writeCell (h : SameWiring s s') (p : Position) (raw : String) :
    SameWiring (s.writeCell p raw) (s'.writeCell p raw) := by
  have stored : SameWiring { s with matrix := s.matrix.put p raw } { s' with matrix := s'.matrix.put p raw } :=
    ⟨Matrix.reread_put_congr h.texts p raw, h.formulas, h.circular, h.graph⟩
  unfold Sheet.writeCell
  dsimp only
  split
  · exact (stored.detach p).attach false p
  · exact stored.detach p

theorem SameWiring.writeCells (h : SameWiring s s') (edits : List (Position × String)) :
    SameWiring (s.writeCells edits).1 (s'.writeCells edits).1 ∧
      (s'.writeCells edits).2 = (s.writeCells edits).2 := by
  have written : SameWiring (edits.foldl (fun s edit => s.writeCell edit.1 edit.2) s)
      (edits.foldl (fun s edit => s.writeCell edit.1 edit.2) s') := by
    induction edits generalizing s s' with
    | nil => exact h
    | cons edit edits ih => exact ih (h.writeCell edit.1 edit.2)
  obtain ⟨same, healed⟩ := written.retryCircular
  exact ⟨same, congrArg (edits.map (·.1) ++ ·) healed⟩

theorem SameWiring.rebuild (h : s'.matrix.reread = s.matrix.reread) (circular : List Position) :
    SameWiring (s.rebuild circular) (s'.rebuild circular) := by
  have bare : SameWiring { s with graph := .empty, formulas := ∅, circular := ∅ }
      { s' with graph := .empty, formulas := ∅, circular := ∅ } := ⟨h, rfl, rfl, rfl⟩
  unfold Sheet.rebuild
  rw [Matrix.formulaCells_of_reread h]
  exact ((bare.attachAll false _).attachAll true _).retryCircular.1

/-! ## Operations -/

theorem SameWiring.write (h : SameWiring s s') (edits : List (Position × String)) :
    Matched (fun a b => a.1.SameWiring b.1 ∧ b.2 = a.2) (s.write edits) (s'.write edits) := by
  unfold Sheet.write
  rw [h.limits]
  exact Matched.map (.of_eq rfl fun _ => rfl) fun _ _ _ _ _ => h.writeCells edits

theorem SameWiring.editLine (h : SameWiring s s') (edit : LineEdit) :
    Matched SameWiring (s.editLine edit) (s'.editLine edit) := by
  unfold Sheet.editLine
  rw [h.circularCells]
  refine (Matrix.matched_editLine h.texts edit).map fun m m' _ _ same => SameWiring.rebuild ?_ _
  obtain ⟨cells, rfl, texts⟩ := Matrix.exists_cells same
  refine Matrix.reread_cells (fun p => ?_) m
  rw [Std.ExtTreeMap.getElem?_map, Std.ExtTreeMap.getElem?_map, Option.map_map, Option.map_map]
  have moved := congrArg (Option.map (moveText edit)) (texts p)
  rw [Option.map_map, Option.map_map] at moved
  exact moved

theorem SameWiring.restore (h : SameWiring s s') (step : Step) :
    Matched SameWiring (s.restore step) (s'.restore step) := by
  have texts : Matched (fun a b => b.reread = a.reread) (restoreMatrix s.matrix step)
      (restoreMatrix s'.matrix step) := by
    unfold restoreMatrix
    cases step.change with
    | cells texts =>
        exact (Matrix.matched_setTexts h.texts texts).bind fun _ _ _ _ same =>
          Matrix.matched_setDimensions same step.rows step.columns
    | matrix snapshot =>
        rw [Matrix.clear_of_reread h.texts]
        exact .of_eq rfl fun _ => rfl
  exact texts.map fun _ _ _ _ same => .rebuild same _

theorem SameWiring.inverseOf (h : SameWiring s s') (step : Step) :
    s'.inverseOf step = s.inverseOf step := by
  unfold Sheet.inverseOf
  cases step.change with
  | cells texts => exact recordCells_of_snapshot h.snapshot _ _
  | matrix snapshot => exact recordMatrix_of_snapshot h.snapshot _

/-! ## Recalculation -/

theorem sameWiring_markAll (ps : List Position) (s : Sheet) : SameWiring s (ps.foldl markDirty s) := by
  induction ps generalizing s with
  | nil => exact .refl s
  | cons p ps ih =>
      have marked : SameWiring s (s.markDirty p) := ⟨s.matrix.reread_markDirty p, rfl, rfl, rfl⟩
      exact marked.trans (ih _)

theorem sameWiring_evaluateAt {state state' : Sheet × RecalcStats} {p : Position}
    (ran : evaluateAt state p = some state') : SameWiring state.1 state'.1 := by
  have texts := reread_evaluateAt ran
  obtain ⟨s, stats⟩ := state
  unfold evaluateAt at ran
  dsimp only at ran
  cases formula : s.formulas[p]? with
  | none =>
      rw [formula] at ran
      cases ran
      exact .refl s
  | some e =>
      rw [formula] at ran
      obtain ⟨value, _, rfl⟩ := Option.map_eq_some_iff.1 ran
      exact ⟨texts, rfl, rfl, rfl⟩

variable {set : PositionSet} {cancelled cancelled' : Bool} {stats stats' : RecalcStats} {t t' : Sheet}

theorem sameWiring_recalcCells (ran : s.recalcCells set cancelled = some (t, stats)) : SameWiring s t := by
  rcases recalcCells_eq_some ran with rfl | rfl | ⟨order, stats', evaluated⟩
  · exact .refl _
  · exact sameWiring_markAll _ s
  · exact foldlM_kept (P := fun state => SameWiring s state.1)
      (fun _ _ _ same ran => same.trans (sameWiring_evaluateAt ran)) (sameWiring_markAll _ s) evaluated

theorem SameWiring.recalcAll (h : SameWiring s s') (ran : s.recalcAll cancelled = some (t, stats))
    (ran' : s'.recalcAll cancelled' = some (t', stats')) : SameWiring t t' :=
  ((sameWiring_recalcCells ran).symm.trans h).trans (sameWiring_recalcCells ran')

theorem SameWiring.recalcFrom (h : SameWiring s s') {roots roots' : List Position}
    (ran : s.recalcFrom roots cancelled = some (t, stats))
    (ran' : s'.recalcFrom roots' cancelled' = some (t', stats')) : SameWiring t t' :=
  ((sameWiring_recalcCells ran).symm.trans h).trans (sameWiring_recalcCells ran')

section
variable {val val' : Position → Option CellValue} {roots : List Position} {edits : List (Position × String)}
  {u u' : Sheet}

theorem SameWiring.values_eq (h : SameWiring s s') (sound : s.Sound) (sound' : s'.Sound)
    (values : s.Values val) (values' : s'.Values val') (p : Position) : val' p = val p :=
  values.eq_of_raws values' sound sound' h.limits (raw_of_snapshot h.snapshot)
    (isCircular_congr h.circularCells) p

theorem SameWiring.recalcCells_ended (h : SameWiring s s') (sound : s.Sound) (sound' : s'.Sound)
    (values : s.Values val) (accepted : ∀ p, p ∈ set → s.formulas[p]? ≠ none)
    (outside : (s.mapCells (stale (· ∈ set))).Fresh val) (values' : s'.Values val')
    (outside' : (s'.mapCells (stale (· ∈ set))).Fresh val')
    (ran : s.recalcCells set cancelled = some (t, stats)) (ends : cancelled' = cancelled ∨ t.Shows) :
    (s'.recalcCells set cancelled').isSome = true := by
  have accepted' : ∀ p, p ∈ set → s'.formulas[p]? ≠ none := by
    rw [h.formulas]
    exact accepted
  cases cancelled' with
  | true =>
      obtain ⟨stats', marked⟩ := recalcCells_true s' set
      rw [marked]
      rfl
  | false =>
      rw [recalcCells_isSome_iff sound' values' accepted' outside']
      intro p due
      rw [h.values_eq sound sound' values values']
      rcases ends with rfl | shows
      · exact (recalcCells_isSome_iff sound values accepted outside).1 (by rw [ran]; rfl) p due
      · obtain ⟨kept, values₁, fresh₁⟩ := recalcCells_spec sound values accepted outside ran
        exact (fresh₁.shows_iff kept values₁).1 shows p

theorem SameWiring.recalcAll_ended (h : SameWiring s s') (sound : s.Sound) (sound' : s'.Sound)
    (ran : s.recalcAll cancelled = some (t, stats)) (ends : cancelled' = cancelled ∨ t.Shows) :
    (s'.recalcAll cancelled').isSome = true := by
  obtain ⟨val, values⟩ := sound.exists_values
  obtain ⟨val', values'⟩ := sound'.exists_values
  have accepted : s'.acceptedCells = s.acceptedCells := by
    unfold acceptedCells
    rw [h.formulas]
  have outside' : (s'.mapCells (stale (· ∈ s'.acceptedCells))).Fresh val' := fresh_of_all_stale
  show (s'.recalcCells s'.acceptedCells cancelled').isSome = true
  rw [accepted] at outside' ⊢
  exact h.recalcCells_ended sound sound' values (fun _ => mem_acceptedCells.1) fresh_of_all_stale values'
    outside' ran ends

theorem SameWiring.staleFrom (h : SameWiring s s') (roots : List Position) :
    s'.staleFrom roots = s.staleFrom roots := by
  unfold Sheet.staleFrom
  rw [h.graph, h.formulas]

theorem SameWiring.recalcFrom_ended (h : SameWiring s s') (before : u.Truthful) (before' : u'.Truthful)
    (wrote : u.write edits = .ok (s, roots)) (wrote' : u'.write edits = .ok (s', roots))
    (ran : s.recalcFrom roots cancelled = some (t, stats)) (ends : cancelled' = cancelled ∨ t.Shows) :
    (s'.recalcFrom roots cancelled').isSome = true := by
  obtain ⟨sound, accepted, val, values, outside⟩ := before.fresh_of_write wrote
  obtain ⟨sound', _, val', values', outside'⟩ := before'.fresh_of_write wrote'
  show (s'.recalcCells (s'.staleFrom roots) cancelled').isSome = true
  rw [h.staleFrom] at outside' ⊢
  exact h.recalcCells_ended sound sound' values accepted outside values' outside' ran ends

theorem SameWiring.parallel_recalcAll (h : SameWiring s s') (sound : s.Sound) (sound' : s'.Sound)
    (cancelled cancelled' : Bool) :
    Parallel (fun a b => a.1.SameWiring b.1) (fun a => ¬ (cancelled' = cancelled ∨ a.1.Shows))
      (fun b => ¬ (cancelled = cancelled' ∨ b.1.Shows))
      (Attempt.ofOption (s.recalcAll cancelled) : Attempt GridError _)
      (Attempt.ofOption (s'.recalcAll cancelled')) :=
  parallel_ofOption (fun _ _ ran ran' => h.recalcAll ran ran')
    (fun _ ran ends => h.recalcAll_ended sound sound' ran ends)
    fun _ ran ends => h.symm.recalcAll_ended sound' sound ran ends

theorem SameWiring.matched_recalcAll (h : SameWiring s s') (sound : s.Sound) (sound' : s'.Sound) :
    Matched (fun a b => a.1.SameWiring b.1) (Attempt.ofOption (s.recalcAll false) : Attempt GridError _)
      (Attempt.ofOption (s'.recalcAll false)) :=
  (h.parallel_recalcAll sound sound' false false).matched (fun _ no => no (.inl rfl))
    fun _ no => no (.inl rfl)

theorem SameWiring.parallel_recalcFrom (h : SameWiring s s') (before : u.Truthful)
    (before' : u'.Truthful) (wrote : u.write edits = .ok (s, roots)) (wrote' : u'.write edits = .ok (s', roots))
    (cancelled cancelled' : Bool) :
    Parallel (fun a b => a.1.SameWiring b.1) (fun a => ¬ (cancelled' = cancelled ∨ a.1.Shows))
      (fun b => ¬ (cancelled = cancelled' ∨ b.1.Shows))
      (Attempt.ofOption (s.recalcFrom roots cancelled) : Attempt GridError _)
      (Attempt.ofOption (s'.recalcFrom roots cancelled')) :=
  parallel_ofOption (fun _ _ ran ran' => h.recalcFrom ran ran')
    (fun _ ran ends => h.recalcFrom_ended before before' wrote wrote' ran ends)
    fun _ ran ends => h.symm.recalcFrom_ended before' before wrote' wrote ran ends

end

theorem SameWiring.shown (h : SameWiring s s') (truthful : s.Truthful) (truthful' : s'.Truthful)
    (p : Position) : (s'.view p).map CellView.shown = (s.view p).map CellView.shown :=
  truthful.shown_of_snapshot truthful' h.limits h.snapshot p

end

end Sheet

end Spreadsheet
