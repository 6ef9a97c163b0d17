import Spreadsheet.Proofs.Graph.Layers
import Spreadsheet.Proofs.Sheet.Values
import Spreadsheet.Sheet.Recalc

/-!
# Recalculation stores the values

Recalculation changes nothing but the values and marks of accepted cells. A run that is not cancelled
leaves the cells of its set with their values, whatever the order of evaluation, so a set that holds
every formula a change reaches leaves the sheet fresh, and a full run leaves nothing stale. It comes to
an end if and only if each cell of the set has a value.
-/

namespace Spreadsheet

namespace RecalcStats

def counted (stats : RecalcStats) (val : Position → Option CellValue) (ps : List Position) :
    RecalcStats :=
  { stats with
    evaluated := stats.evaluated + ps.length
    errors := stats.errors + ps.countP fun p => (val p).any CellValue.isError }

theorem counted_single (stats : RecalcStats) {val : Position → Option CellValue} {p : Position}
    {v : CellValue} (value : val p = some v) :
    stats.counted val [p] =
      { stats with
        evaluated := stats.evaluated + 1
        errors := stats.errors + v.isError.toNat } := by
  unfold counted
  cases error : v.isError <;> simp [value, error]

theorem counted_counted (stats : RecalcStats) (val : Position → Option CellValue) (ps qs : List Position) :
    (stats.counted val ps).counted val qs = stats.counted val (ps ++ qs) := by
  simp only [counted, List.length_append, List.countP_append, Nat.add_assoc]

theorem counted_perm (stats : RecalcStats) (val : Position → Option CellValue) {ps qs : List Position}
    (perm : ps.Perm qs) : stats.counted val ps = stats.counted val qs := by
  unfold counted
  rw [perm.length_eq, perm.countP_eq]

end RecalcStats

namespace Sheet
open Relation (TransGen)

/-! ## Changing cells in place -/

def mapCells (s : Sheet) (f : Position → Cell → Cell) : Sheet :=
  { s with matrix := { s.matrix with cells := s.matrix.cells.map f } }

theorem cells_mapCells (s : Sheet) (f : Position → Cell → Cell) (p : Position) :
    (s.mapCells f).matrix.cells[p]? = (s.matrix.cells[p]?).map (f p) :=
  Std.ExtTreeMap.getElem?_map

theorem mapCells_mapCells (s : Sheet) (f g : Position → Cell → Cell) :
    (s.mapCells f).mapCells g = s.mapCells fun p c => g p (f p c) := by
  unfold mapCells
  dsimp only
  rw [Std.ExtTreeMap.map_map]

theorem mapCells_self {s : Sheet} {f : Position → Cell → Cell}
    (same : ∀ (p : Position) (c : Cell), s.matrix.cells[p]? = some c → f p c = c) :
    s.mapCells f = s := by
  have cells : s.matrix.cells.map f = s.matrix.cells := by
    refine Std.ExtTreeMap.ext_getElem? fun p => ?_
    rw [Std.ExtTreeMap.getElem?_map]
    cases cell : s.matrix.cells[p]? with
    | none => rfl
    | some c => exact congrArg some (same p c cell)
  unfold mapCells
  rw [cells]

theorem update_eq_mapCells (s : Sheet) (p : Position) (f : Cell → Cell) :
    { s with matrix := s.matrix.update p f } = s.mapCells fun q c => if q = p then f c else c := by
  have cells : (s.matrix.update p f).cells = s.matrix.cells.map fun q c => if q = p then f c else c := by
    refine Std.ExtTreeMap.ext_getElem? fun q => ?_
    rw [Matrix.update_at, Std.ExtTreeMap.getElem?_map]
    by_cases same : q = p
    · simp [same]
    · simp [same]
  have rest : s.matrix.update p f = { s.matrix with cells := (s.matrix.update p f).cells } := by
    unfold Matrix.update
    split <;> rfl
  unfold mapCells
  rw [rest, cells]

structure Restates (s : Sheet) (f : Position → Cell → Cell) : Prop where
  others : ∀ (p : Position) (c : Cell), s.formulas[p]? = none → f p c = c
  raw : ∀ p c, (f p c).raw = c.raw
  diagnostic : ∀ p c, (f p c).diagnostic = c.diagnostic

theorem Settled.restated {c : Cell} {e : Expr} {circular : Option Expr} {f : Cell → Cell}
    (raw : ∀ c, (f c).raw = c.raw) (diagnostic : ∀ c, (f c).diagnostic = c.diagnostic)
    (h : Entry.Settled ⟨some c, some e, circular⟩) :
    Entry.Settled ⟨some (f c), some e, circular⟩ := by
  cases h with
  | accepted isFormula parsed clear =>
      refine .accepted ?_ ?_ ?_
      · rw [Cell.isFormula, raw]
        exact isFormula
      · rw [raw]
        exact parsed
      · rw [diagnostic]
        exact clear

theorem Restates.sound {s : Sheet} {f : Position → Cell → Cell} (restates : s.Restates f)
    (h : s.Sound) : (s.mapCells f).Sound := by
  refine ⟨⟨h.toLinked.of_same rfl rfl rfl, fun p => ?_⟩, h.blocked, fun p c cell => ?_⟩
  · have settled := h.settled p
    unfold entry at settled ⊢
    rw [cells_mapCells]
    show Entry.Settled ⟨_, s.formulas[p]?, s.circular[p]?⟩
    cases cell : s.matrix.cells[p]? with
    | none => rwa [cell] at settled
    | some c =>
        rw [cell] at settled
        cases formula : s.formulas[p]? with
        | none =>
            rw [formula] at settled
            rw [Option.map_some, restates.others p c formula]
            exact settled
        | some e =>
            rw [formula] at settled
            exact Settled.restated (restates.raw p) (restates.diagnostic p) settled
  · rw [cells_mapCells] at cell
    obtain ⟨c', before, _⟩ := Option.map_eq_some_iff.1 cell
    exact h.inside p c' before

theorem Restates.values {s : Sheet} {f : Position → Cell → Cell} {val : Position → Option CellValue}
    (restates : s.Restates f) (values : s.Values val) : (s.mapCells f).Values val := by
  refine ⟨fun p noFormula => ?_, values.computed⟩
  have noFormula : s.formulas[p]? = none := noFormula
  rw [values.stored p noFormula, Matrix.value, Matrix.value, cells_mapCells]
  cases s.matrix.cells[p]? with
  | none => rfl
  | some c => rw [Option.map_some, restates.others p c noFormula]

/-! ## One run -/

def stale (marked : Position → Prop) [DecidablePred marked] (p : Position) (c : Cell) : Cell :=
  if marked p then { c with dirty := true } else c

def settle (marked : Position → Prop) [DecidablePred marked] (val : Position → Option CellValue)
    (p : Position) (c : Cell) : Cell :=
  if marked p then { c with value := (val p).getD c.value, dirty := false } else c

section
variable {s : Sheet} {val : Position → Option CellValue} {marked : Position → Prop} [DecidablePred marked]

theorem restates_stale (accepted : ∀ p, marked p → s.formulas[p]? ≠ none) :
    s.Restates (stale marked) := by
  refine ⟨fun p c noFormula => if_neg fun mem => accepted p mem noFormula, fun p c => ?_,
    fun p c => ?_⟩ <;> · unfold stale; split <;> rfl

theorem restates_settle (accepted : ∀ p, marked p → s.formulas[p]? ≠ none) :
    s.Restates (settle marked val) := by
  refine ⟨fun p c noFormula => if_neg fun mem => accepted p mem noFormula, fun p c => ?_,
    fun p c => ?_⟩ <;> · unfold settle; split <;> rfl

theorem Fresh.settle (fresh : s.Fresh val) (shown : ∀ p, marked p → (val p).isSome = true) :
    (s.mapCells (settle marked val)).Fresh val := by
  intro p c cell formula clean
  rw [cells_mapCells] at cell
  obtain ⟨c', before, rfl⟩ := Option.map_eq_some_iff.1 cell
  unfold Sheet.settle at clean ⊢
  by_cases mem : marked p
  · obtain ⟨v, value⟩ := Option.isSome_iff_exists.1 (shown p mem)
    rw [if_pos mem, value]
    rfl
  · rw [if_neg mem] at clean ⊢
    exact fresh p c' before formula clean

theorem Fresh.stale (fresh : ∀ (p : Position) (c : Cell), s.matrix.cells[p]? = some c →
    s.formulas[p]? ≠ none → ¬ marked p → c.dirty = false → val p = some c.value) :
    (s.mapCells (stale marked)).Fresh val := by
  intro p c cell formula clean
  rw [cells_mapCells] at cell
  obtain ⟨c', before, rfl⟩ := Option.map_eq_some_iff.1 cell
  unfold Sheet.stale at clean ⊢
  by_cases mem : marked p
  · rw [if_pos mem] at clean
    cases clean
  · rw [if_neg mem] at clean ⊢
    exact fresh p c' before formula mem clean

end

theorem markAll (ps : List Position) (s : Sheet) :
    ps.foldl markDirty s = s.mapCells (stale (· ∈ ps)) := by
  induction ps generalizing s with
  | nil =>
      rw [mapCells_self]
      · rfl
      · exact fun p c _ => if_neg List.not_mem_nil
  | cons p ps ih =>
      rw [List.foldl_cons, ih, markDirty, Matrix.markDirty, update_eq_mapCells, mapCells_mapCells]
      congr 1
      funext q c
      unfold stale
      by_cases same : q = p <;> by_cases later : q ∈ ps <;> simp [same, later]

theorem settle_stale {s : Sheet} {marked : Position → Prop} [DecidablePred marked]
    {val : Position → Option CellValue} :
    (s.mapCells (stale marked)).mapCells (settle marked val) = s.mapCells (settle marked val) := by
  rw [mapCells_mapCells]
  congr 1
  funext p c
  unfold settle stale
  split <;> rfl

theorem markAll_toList (s : Sheet) (set : PositionSet) :
    set.toList.foldl markDirty s = s.mapCells (stale (· ∈ set)) := by
  rw [markAll]
  congr 1
  funext p c
  simp only [stale, Std.ExtTreeSet.mem_toList]

section
variable {s s' : Sheet} {val : Position → Option CellValue} {stats : RecalcStats}

theorem evaluateAt_eq (h : s.Sound) (values : s.Values val) (fresh : s.Fresh val) {p : Position}
    (accepted : s.formulas[p]? ≠ none) (stats : RecalcStats) :
    evaluateAt (s, stats) p =
      (val p).map fun _ => (s.mapCells (settle (· = p) val), stats.counted val [p]) := by
  obtain ⟨e, formula⟩ := Option.ne_none_iff_exists'.1 accepted
  simp only [evaluateAt, formula]
  rw [(fresh.reads h values).evaluateCell h values formula]
  cases value : val p with
  | none => rfl
  | some v =>
      rw [Option.map_some, Option.map_some, Matrix.setValue, update_eq_mapCells,
        RecalcStats.counted_single _ value]
      congr 3
      funext q c
      by_cases same : q = p
      · subst same
        simp [settle, value]
      · simp [settle, same]

theorem evaluateAll (h : s.Sound) (values : s.Values val) (fresh : s.Fresh val) (ps : List Position)
    (accepted : ∀ p ∈ ps, s.formulas[p]? ≠ none) (stats : RecalcStats) :
    ps.foldlM evaluateAt (s, stats) =
      if ∀ p ∈ ps, (val p).isSome = true then
        some (s.mapCells (settle (· ∈ ps) val), stats.counted val ps)
      else none := by
  induction ps generalizing s stats with
  | nil =>
      rw [mapCells_self]
      · rfl
      · exact fun p c _ => if_neg List.not_mem_nil
  | cons p ps ih =>
      rw [List.foldlM_cons, evaluateAt_eq h values fresh (accepted p List.mem_cons_self)]
      cases value : val p with
      | none =>
          rw [if_neg fun all => by simpa [value] using all p List.mem_cons_self]
          rfl
      | some v =>
          -- Storing one value changes none, so the rest meets the same values.
          have restates : s.Restates (settle (· = p) val) :=
            restates_settle fun q same => accepted q (by simp [same])
          have settled : (s.mapCells (settle (· = p) val)).Fresh val :=
            fresh.settle fun q same => by rw [same, value]; rfl
          rw [Option.map_some, Option.bind_eq_bind, Option.bind_some,
            ih (restates.sound h) (restates.values values) settled
              fun q mem => accepted q (List.mem_cons_of_mem p mem)]
          have shown : (∀ q ∈ p :: ps, (val q).isSome = true) ↔ ∀ q ∈ ps, (val q).isSome = true := by
            simp [value]
          simp only [shown]
          split
          · rw [mapCells_mapCells, RecalcStats.counted_counted, List.singleton_append]
            congr 3
            funext q c
            unfold settle
            by_cases same : q = p <;> by_cases later : q ∈ ps <;> simp [same, later, value]
          · rfl

section
variable {set : PositionSet} (h : s.Sound) (values : s.Values val)
  (accepted : ∀ p, p ∈ set → s.formulas[p]? ≠ none) (outside : (s.mapCells (stale (· ∈ set))).Fresh val)
include h values accepted outside

theorem evaluateAll_of_perm {order : List Position} (perm : order.Perm set.toList) :
    order.foldlM evaluateAt (set.toList.foldl markDirty s, {}) =
      if ∀ p ∈ set.toList, (val p).isSome = true then
        some (s.mapCells (settle (· ∈ set) val), RecalcStats.counted {} val set.toList)
      else none := by
  have restates := restates_stale accepted
  have among : ∀ p, p ∈ order ↔ p ∈ set := fun p => perm.mem_iff.trans Std.ExtTreeSet.mem_toList
  have listed : settle (· ∈ order) val = settle (· ∈ set) val := by
    funext p c
    simp only [settle, among]
  rw [markAll_toList, evaluateAll (restates.sound h) (restates.values values) outside order
    fun p mem => accepted p ((among p).1 mem), listed, settle_stale, RecalcStats.counted_perm _ _ perm]
  simp only [perm.mem_iff]

theorem recalcCells_false :
    s.recalcCells set false =
      if ∀ p ∈ set.toList, (val p).isSome = true then
        some (s.mapCells (settle (· ∈ set) val), RecalcStats.counted {} val set.toList)
      else none := by
  have graph : (set.toList.foldl markDirty s).graph = s.graph := by
    rw [markAll]
    rfl
  have ran := evaluateAll_of_perm h values accepted outside (h.acyclic.ordered set).perm
  unfold recalcCells
  by_cases empty : set.isEmpty = true
  · have none : set.toList = [] := List.eq_nil_iff_forall_not_mem.2 fun p mem =>
      (PositionSet.isEmpty_iff set).1 empty p (Std.ExtTreeSet.mem_toList.1 mem)
    rw [if_pos empty, none, mapCells_self]
    · simp [RecalcStats.counted]
    · exact fun p c _ => if_neg ((PositionSet.isEmpty_iff set).1 empty p)
  · rw [if_neg empty]
    dsimp only
    rw [graph, if_neg Bool.false_ne_true, ran]
    split
    · simp [RecalcStats.counted]
    · rfl

omit values accepted outside h in
theorem recalcCells_true (s : Sheet) (set : PositionSet) :
    ∃ stats, s.recalcCells set true = some (s.mapCells (stale (· ∈ set)), stats) := by
  unfold recalcCells
  split
  · rename_i empty
    refine ⟨{}, ?_⟩
    rw [mapCells_self]
    exact fun p c _ => if_neg ((PositionSet.isEmpty_iff set).1 empty p)
  · dsimp only
    rw [if_pos rfl, markAll_toList]
    exact ⟨_, rfl⟩

theorem recalcCells_eq_foldlM {order : List Position} (perm : order.Perm set.toList) :
    order.foldlM evaluateAt (set.toList.foldl markDirty s, {}) = s.recalcCells set false := by
  rw [evaluateAll_of_perm h values accepted outside perm, recalcCells_false h values accepted outside]

theorem recalcCells_isSome_iff :
    (s.recalcCells set false).isSome = true ↔ ∀ p, p ∈ set → (val p).isSome = true := by
  rw [recalcCells_false h values accepted outside, Option.isSome_ite]
  simp only [Std.ExtTreeSet.mem_toList]

theorem recalcCells_eq {cancelled : Bool} (ran : s.recalcCells set cancelled = some (s', stats)) :
    s' = s.mapCells (if cancelled then stale (· ∈ set) else settle (· ∈ set) val) := by
  cases cancelled with
  | true =>
      obtain ⟨stats', marked⟩ := recalcCells_true s set
      cases ran.symm.trans marked
      rfl
  | false =>
      rw [recalcCells_false h values accepted outside, Option.ite_none_right_eq_some] at ran
      cases ran.2
      rfl

theorem recalcCells_spec {cancelled : Bool} (ran : s.recalcCells set cancelled = some (s', stats)) :
    s'.Sound ∧ s'.Values val ∧ s'.Fresh val := by
  have shown : cancelled = false → ∀ p, p ∈ set → (val p).isSome = true := by
    rintro rfl
    exact (recalcCells_isSome_iff h values accepted outside).1 (by rw [ran]; rfl)
  rw [recalcCells_eq h values accepted outside ran]
  cases cancelled with
  | true =>
      have restates := restates_stale accepted
      exact ⟨restates.sound h, restates.values values, outside⟩
  | false =>
      have restates : s.Restates (settle (· ∈ set) val) := restates_settle accepted
      have settled : ((s.mapCells (stale (· ∈ set))).mapCells (settle (· ∈ set) val)).Fresh val :=
        outside.settle (shown rfl)
      rw [settle_stale] at settled
      exact ⟨restates.sound h, restates.values values, settled⟩

end

end

/-! ## Truthful sheets -/

/-- A sound sheet in which no accepted formula passes off a stale value as fresh. -/
structure Truthful (s : Sheet) : Prop extends Sound s where
  fresh : ∃ val, s.Values val ∧ s.Fresh val

theorem Sound.truthful {s : Sheet} (h : s.Sound) (pending : ∀ p, (s.entry p).Pending) :
    s.Truthful := by
  obtain ⟨val, values⟩ := h.exists_values
  refine ⟨h, val, values, fun p c cell formula clean => ?_⟩
  rw [pending p c cell formula] at clean
  cases clean

theorem Truthful.stored {s : Sheet} (h : s.Truthful) {p : Position} {c : Cell} {e : Expr}
    (cell : s.matrix.cells[p]? = some c) (formula : s.formulas[p]? = some e)
    (clean : c.dirty = false) : evaluateCell s.resolver p e = some c.value := by
  obtain ⟨val, values, fresh⟩ := h.fresh
  rw [(fresh.reads h.toSound values).evaluateCell h.toSound values formula]
  exact fresh p c cell (by simp [formula]) clean

/-! ## Runs after a write -/

theorem mem_staleFrom {s : Sheet} (h : s.Linked) {roots : List Position} {p : Position} :
    p ∈ s.staleFrom roots ↔
      (∃ q ∈ roots, TransGen s.graph.Edge q p) ∨ p ∈ roots ∧ s.formulas[p]? ≠ none := by
  unfold staleFrom
  rw [PositionSet.mem_insertMany_iff, h.mirrored.mem_transitiveDependents, List.mem_filter,
    PositionMap.contains_iff, Option.ne_none_iff_exists']

theorem accepted_of_path {s : Sheet} (h : s.Linked) {p q : Position}
    (path : TransGen s.graph.Edge q p) : s.formulas[p]? ≠ none := by
  cases path with
  | single edge => exact fun absent => h.no_precedents absent _ edge
  | tail _ edge => exact fun absent => h.no_precedents absent _ edge

theorem Truthful.fresh_of_write {s s' : Sheet} (h : s.Truthful) {edits : List (Position × String)}
    {roots : List Position} (ok : s.write edits = .ok (s', roots)) :
    s'.Sound ∧ (∀ p, p ∈ s'.staleFrom roots → s'.formulas[p]? ≠ none) ∧
      ∃ val, s'.Values val ∧ (s'.mapCells (stale (· ∈ s'.staleFrom roots))).Fresh val := by
  obtain ⟨written, inside⟩ := write_ok ok
  obtain ⟨val, values, fresh⟩ := h.fresh
  have sound := writeCells_sound h.toSound inside
  obtain ⟨_, _, others⟩ := writeCells_spec h.toWired edits
  rw [written] at sound others
  obtain ⟨val', values'⟩ := sound.exists_values
  refine ⟨sound, fun p mem => ?_, val', values', ?_⟩
  · rcases (mem_staleFrom sound.toLinked).1 mem with ⟨_, _, path⟩ | ⟨_, accepted⟩
    · exact accepted_of_path sound.toLinked path
    · exact accepted
  · -- The values after the write differ from those before only at the roots and what they reach.
    refine Fresh.stale fun p c cell formula notStale clean => ?_
    rw [mem_staleFrom sound.toLinked, not_or] at notStale
    have untouched : ¬ p ∈ roots := fun mem => notStale.2 ⟨mem, formula⟩
    have same : val' p = val p := values.unchanged values' h.toSound sound (frame_write ok).1 (· ∈ roots)
      (fun q absent => .of_entry (others q absent)) p untouched
      fun q mem path => notStale.1 ⟨q, mem, path⟩
    have entry := others p untouched
    have cellBefore : s.matrix.cells[p]? = some c := (congrArg Entry.cell entry).symm.trans cell
    rw [same]
    exact fresh p c cellBefore (fun absent => formula ((congrArg Entry.formula entry).trans absent)) clean

/-- Recalculating from the written and healed cells leaves no value stale in disguise: a fresh cell
that they do not reach has the value it had before. -/
theorem Truthful.write {s s' s'' : Sheet} (h : s.Truthful) {edits : List (Position × String)}
    {roots : List Position} (ok : s.write edits = .ok (s', roots)) {cancelled : Bool} {stats : RecalcStats}
    (ran : s'.recalcFrom roots cancelled = some (s'', stats)) : s''.Truthful := by
  obtain ⟨sound, accepted, val, values, outside⟩ := h.fresh_of_write ok
  obtain ⟨kept, values', fresh'⟩ := recalcCells_spec sound values accepted outside ran
  exact ⟨kept, val, values', fresh'⟩

/-! ## Full runs -/

def acceptedCells (s : Sheet) : PositionSet := .ofList s.formulas.keys

theorem mem_acceptedCells {s : Sheet} {p : Position} :
    p ∈ s.acceptedCells ↔ s.formulas[p]? ≠ none := by
  rw [acceptedCells, PositionSet.mem_ofList_iff, PositionMap.mem_keys_iff, Option.ne_none_iff_exists']

section
variable {s s' : Sheet} {val : Position → Option CellValue} {stats : RecalcStats}

theorem fresh_of_all_stale : (s.mapCells (stale (· ∈ s.acceptedCells))).Fresh val :=
  Fresh.stale fun _ _ _ formula absent _ => absurd (mem_acceptedCells.2 formula) absent

theorem recalcAll_eq (h : s.Sound) (values : s.Values val) (ran : s.recalcAll false = some (s', stats)) :
    s' = s.mapCells (settle (· ∈ s.acceptedCells) val) :=
  recalcCells_eq h values (fun _ => mem_acceptedCells.1) fresh_of_all_stale ran

theorem recalcAll_spec (h : s.Sound) (values : s.Values val) {cancelled : Bool}
    (ran : s.recalcAll cancelled = some (s', stats)) : s'.Sound ∧ s'.Values val ∧ s'.Fresh val :=
  recalcCells_spec h values (fun _ => mem_acceptedCells.1) fresh_of_all_stale ran

theorem Sound.recalcAll (h : s.Sound) {cancelled : Bool} (ran : s.recalcAll cancelled = some (s', stats)) :
    s'.Truthful := by
  obtain ⟨val, values⟩ := h.exists_values
  obtain ⟨sound, values, fresh⟩ := recalcAll_spec h values ran
  exact ⟨sound, val, values, fresh⟩

theorem recalcAll_isSome_iff (h : s.Sound) (values : s.Values val) :
    (s.recalcAll false).isSome = true ↔ ∀ p, (val p).isSome = true := by
  refine (recalcCells_isSome_iff h values (fun _ => mem_acceptedCells.1) fresh_of_all_stale).trans
    ⟨fun shown p => ?_, fun shown p _ => shown p⟩
  cases formula : s.formulas[p]? with
  | none =>
      rw [values.stored p formula]
      rfl
  | some e => exact shown p (mem_acceptedCells.2 (by rw [formula]; exact Option.some_ne_none e))

theorem Truthful.recalcAll_isSome_iff (h : s.Truthful) : (s.recalcAll false).isSome = true ↔ s.Shows := by
  obtain ⟨val, values, fresh⟩ := h.fresh
  rw [Sheet.recalcAll_isSome_iff h.toSound values, fresh.shows_iff h.toSound values]

theorem Truthful.view_recalcAll (h : s.Truthful) {cancelled : Bool}
    (ran : s.recalcAll cancelled = some (s', stats)) (p : Position) :
    (s'.view p).map CellView.value = (s.view p).map CellView.value := by
  obtain ⟨val, values, fresh⟩ := h.fresh
  obtain ⟨sound', values', fresh'⟩ := recalcAll_spec h.toSound values ran
  rw [fresh'.view sound' values', fresh.view h.toSound values]

theorem Settled.clean {cell : Cell} {circular : Option Expr}
    (h : Entry.Settled ⟨some cell, none, circular⟩) : cell.dirty = false := by
  cases h with
  | @literal raw literal => rw [Cell.ofRaw, if_neg (by simp [literal])]
  | unparseable => rfl
  | circular => rfl

theorem Sound.recalcAll_clean (h : s.Sound) (ran : s.recalcAll false = some (s', stats)) {p : Position}
    {c : Cell} (cell : s'.matrix.cells[p]? = some c) : c.dirty = false := by
  obtain ⟨val, values⟩ := h.exists_values
  rw [recalcAll_eq h values ran, cells_mapCells] at cell
  obtain ⟨c', before, rfl⟩ := Option.map_eq_some_iff.1 cell
  unfold settle
  split
  · rfl
  · rename_i notAccepted
    have noFormula : s.formulas[p]? = none :=
      Classical.not_not.1 fun formula => notAccepted (mem_acceptedCells.2 formula)
    have settled := h.settled p
    unfold entry at settled
    rw [before, noFormula] at settled
    exact Settled.clean settled

theorem Sound.shows_of_recalcAll (h : s.Sound) (ran : s.recalcAll false = some (s', stats)) : s'.Shows := by
  obtain ⟨val, values⟩ := h.exists_values
  obtain ⟨sound', values', fresh'⟩ := recalcAll_spec h values ran
  rw [fresh'.shows_iff sound' values', ← recalcAll_isSome_iff h values, ran]
  rfl

theorem Sound.recalcAll_again (h : s.Sound) (ran : s.recalcAll false = some (s', stats)) :
    ∃ stats', s'.recalcAll false = some (s', stats') := by
  obtain ⟨val, values⟩ := h.exists_values
  obtain ⟨sound', values', fresh'⟩ := recalcAll_spec h values ran
  have shown := (recalcAll_isSome_iff h values).1 (by rw [ran]; rfl)
  obtain ⟨⟨s'', stats'⟩, again⟩ :=
    Option.isSome_iff_exists.1 ((recalcAll_isSome_iff sound' values').2 shown)
  refine ⟨stats', again.trans (congrArg (fun s => some (s, stats')) ?_)⟩
  rw [recalcAll_eq sound' values' again, mapCells_self]
  intro p c cell
  rw [recalcAll_eq h values ran, cells_mapCells] at cell
  obtain ⟨c', _, rfl⟩ := Option.map_eq_some_iff.1 cell
  rw [recalcAll_eq h values ran]
  obtain ⟨v, value⟩ := Option.isSome_iff_exists.1 (shown p)
  show settle (· ∈ s.acceptedCells) val p _ = _
  unfold settle
  split <;> simp [value]

end

end Sheet

end Spreadsheet
