import Spreadsheet.Proofs.Sheet.Determined

namespace Spreadsheet.Sheet
open Relation (TransGen)

theorem Sound.recalcAll_eq_foldl {s : Sheet} (h : s.Sound) {order : List Position}
    (perm : order.Perm s.formulas.keys) :
    order.foldlM evaluateAt (s.formulas.keys.foldl markDirty s, {}) = s.recalcAll false := by
  obtain ⟨val, values⟩ := h.exists_values
  have listed : s.acceptedCells.toList.Perm s.formulas.keys := by
    rw [List.perm_ext_iff_of_nodup (PositionSet.nodup_toList _) (PositionMap.keys_nodup _)]
    intro p
    rw [Std.ExtTreeSet.mem_toList, acceptedCells, PositionSet.mem_ofList_iff]
  have marked : s.formulas.keys.foldl markDirty s = s.acceptedCells.toList.foldl markDirty s := by
    rw [markAll, markAll]
    congr 1
    funext p c
    simp only [stale, listed.mem_iff]
  rw [marked]
  exact recalcCells_eq_foldlM h values (fun _ => mem_acceptedCells.1) fresh_of_all_stale
    (perm.trans listed.symm)

theorem circular_of_healed (ps : List Position) (s : Sheet) (healed : List Position) {q : Position}
    (mem : q ∈ (ps.foldl retryCell (s, healed)).2) : q ∈ healed ∨ s.isCircular q = true := by
  induction ps generalizing s healed with
  | nil => exact .inl mem
  | cons p ps ih =>
      rw [List.foldl_cons] at mem
      rcases retry_cases s healed p with ⟨stays, _⟩ | ⟨e, circular, _, heals⟩
      · rw [stays] at mem
        exact ih s healed mem
      · rw [heals] at mem
        rcases ih _ _ mem with listed | later
        · rcases List.mem_append.1 listed with before | here
          · exact .inl before
          · rw [List.mem_singleton.1 here, isCircular_eq, circular]
            exact .inr rfl
        · right
          rw [isCircular_eq] at later ⊢
          have entry := congrArg Entry.circular (entry_heal s p q e)
          have kept : (s.heal p e).circular[q]? = if q = p then none else s.circular[q]? := by
            refine entry.trans ?_
            split <;> rfl
          rw [kept] at later
          split at later
          · cases later
          · exact later

theorem Wired.healed {s : Sheet} (h : s.Wired) {q : Position} (mem : q ∈ s.retryCircular.2) :
    s.isCircular q = true ∧ s.retryCircular.1.formulas[q]? ≠ none := by
  have before : s.isCircular q = true :=
    (circular_of_healed s.circularCells s [] mem).resolve_left List.not_mem_nil
  refine ⟨before, ?_⟩
  obtain ⟨e, circular⟩ := Option.isSome_iff_exists.1 ((isCircular_eq s q).symm.trans before)
  obtain ⟨s', new, fold, wired, _, _, gone, _⟩ := retry_all h s.circularCells []
  have texts := reread_retryAll s.circularCells (s, [])
  unfold retryCircular at mem ⊢
  rw [fold] at mem texts ⊢
  have listed : s'.isCircular q = false := by
    rw [isCircular_eq, (gone q mem).1]
    rfl
  dsimp only at texts ⊢
  rw [wired.formulas_at, listed, Matrix.raw_of_reread texts, h.spelled_of_circular circular]
  simp

def Changed (s s' : Sheet) (edits : List (Position × String)) (p : Position) : Prop :=
  p ∈ edits.map (·.1) ∨ s.isCircular p = true ∧ s'.formulas[p]? ≠ none

theorem Wired.mem_roots {s : Sheet} (h : s.Wired) (edits : List (Position × String)) {p : Position} :
    p ∈ (s.writeCells edits).2 ↔ s.Changed (s.writeCells edits).1 edits p := by
  obtain ⟨wired, others⟩ := writeAll_spec h edits
  constructor
  · intro mem
    by_cases written : p ∈ edits.map (·.1)
    · exact .inl written
    · obtain ⟨circular, accepted⟩ := wired.healed ((List.mem_append.1 mem).resolve_left written)
      rw [isCircular_eq] at circular
      refine .inr ⟨?_, accepted⟩
      rw [isCircular_eq, ← circular]
      exact congrArg (fun entry => entry.circular.isSome) (others p written).symm
  · rintro (written | ⟨circular, accepted⟩)
    · exact List.mem_append_left _ written
    · refine Classical.byContradiction fun absent => accepted ?_
      obtain ⟨e, circular⟩ := Option.isSome_iff_exists.1 ((isCircular_eq s p).symm.trans circular)
      have entry := (writeCells_spec h edits).2.2 p absent
      exact (congrArg Entry.formula entry).trans (h.not_accepted circular)

/-- How a write and its run end. Due are the accepted cells among those changed and all that depend on
a changed one; the run evaluates them in an order that puts precedents first. -/
structure Recalculated (s s' : Sheet) (edits : List (Position × String)) (stats : RecalcStats)
    (due : PositionSet) (order : List Position) : Prop where
  mem_due : ∀ p, p ∈ due ↔ (s.Changed s' edits p ∧ s'.formulas[p]? ≠ none) ∨
    ∃ q, s.Changed s' edits q ∧ TransGen s'.graph.Edge q p
  ordered : s'.graph.Ordered due order
  run : order.foldlM evaluateAt (due.toList.foldl markDirty (s.writeCells edits).1, {}) = some (s', stats)
  evaluated : stats.evaluated = due.size
  errors : stats.errors = due.toList.countP fun p => (s'.matrix.value p).isError
  finished : stats.remaining = 0 ∧ stats.cancelled = false
  others : ∀ p, ¬ s.Changed s' edits p → ¬ p ∈ due → s'.matrix.cells[p]? = s.matrix.cells[p]?

theorem value_settle {s : Sheet} (h : s.Wired) {val : Position → Option CellValue}
    {marked : Position → Prop} [DecidablePred marked] {p : Position} (mem : marked p)
    (accepted : s.formulas[p]? ≠ none) {v : CellValue} (value : val p = some v) :
    (s.mapCells (settle marked val)).matrix.value p = v := by
  obtain ⟨e, formula⟩ := Option.ne_none_iff_exists'.1 accepted
  obtain ⟨c, cell, _⟩ := h.parsed formula
  rw [Matrix.value, cells_mapCells, cell, Option.map_some, settle, if_pos mem, value]
  rfl

theorem Truthful.recalculated {s written s' : Sheet} (h : s.Truthful) {edits : List (Position × String)}
    {roots : List Position} (ok : s.write edits = .ok (written, roots)) {stats : RecalcStats}
    (ran : written.recalcFrom roots false = some (s', stats)) :
    s.Recalculated s' edits stats (written.staleFrom roots)
      (s'.graph.topologicalOrder (written.staleFrom roots)) := by
  obtain ⟨sound, accepted, val, values, outside⟩ := h.fresh_of_write ok
  have wrote := (write_ok ok).1
  have roots_iff : ∀ p, p ∈ roots ↔ s.Changed written edits p := by
    intro p
    have mem := h.toWired.mem_roots edits (p := p)
    rwa [wrote] at mem
  have ordered := sound.acyclic.ordered (written.staleFrom roots)
  have run := recalcCells_eq_foldlM sound values accepted outside ordered.perm
  have ended := recalcCells_false sound values accepted outside
  rw [show written.recalcCells (written.staleFrom roots) false = some (s', stats) from ran] at run ended
  obtain ⟨shown, done⟩ := Option.ite_none_right_eq_some.1 ended.symm
  cases done
  -- The run leaves formulas and graph as the write did.
  have due : ∀ p, p ∈ written.staleFrom roots ↔
      (s.Changed written edits p ∧ written.formulas[p]? ≠ none) ∨
        ∃ q, s.Changed written edits q ∧ TransGen written.graph.Edge q p := by
    intro p
    rw [mem_staleFrom sound.toLinked, or_comm]
    simp only [roots_iff]
  refine ⟨due, ordered, ?_, ?_, ?_, ⟨rfl, rfl⟩, fun p untouched notDue => ?_⟩
  · rw [wrote]
    exact run
  · simp [RecalcStats.counted]
  · refine (Nat.zero_add _).trans (List.countP_congr fun p mem => ?_)
    obtain ⟨v, value⟩ := Option.isSome_iff_exists.1 (shown p mem)
    have mem := Std.ExtTreeSet.mem_toList.1 mem
    rw [value_settle sound.toWired mem (accepted p mem) value, value]
    rfl
  · have untouched : ¬ p ∈ roots := fun mem => untouched ((roots_iff p).1 mem)
    have entry := (writeCells_spec h.toWired edits).2.2 p (by rwa [wrote])
    rw [wrote] at entry
    have before : written.matrix.cells[p]? = s.matrix.cells[p]? := congrArg Entry.cell entry
    have kept : settle (· ∈ written.staleFrom roots) val p = id := funext fun c => if_neg notDue
    rw [cells_mapCells, kept, Option.map_id]
    exact before

end Spreadsheet.Sheet
