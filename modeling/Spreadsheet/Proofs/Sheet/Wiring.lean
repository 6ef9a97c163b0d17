import Spreadsheet.Proofs.Sheet.Texts

/-!
# Wiring keeps a sheet consistent

Every position of a wired sheet is settled: it is blank, or its cell is a literal, text that is no
formula, a circular formula or an accepted one. The graph has the edges of the accepted formulas and
no cycle. Each step of wiring settles one position and heeds the cycle check, so writes, rebuilds and
retries end in wired sheets.
-/

namespace Spreadsheet

inductive Entry.Settled : Entry → Prop
  | blank : Settled ⟨none, none, none⟩
  | literal {raw : String} : isFormulaText raw = false → Settled ⟨some (.ofRaw raw), none, none⟩
  | unparseable {c : Cell} {fault : FormulaFault} : c.isFormula = true →
      parseFormula c.raw = .error fault →
      Settled ⟨some (Sheet.errorCell fault.code fault.message c), none, none⟩
  | circular {c : Cell} {e : Expr} : c.isFormula = true → parseFormula c.raw = .ok e →
      Settled ⟨some (Sheet.errorCell .circular Sheet.circularDiagnostic c), none, some e⟩
  | accepted {c : Cell} {e : Expr} : c.isFormula = true → parseFormula c.raw = .ok e →
      c.diagnostic = none → Settled ⟨some c, some e, none⟩

def Entry.Unread (entry : Entry) : Prop :=
  ∃ c : Cell, c.isFormula = true ∧ entry = ⟨some c, none, none⟩

def Entry.Pending (entry : Entry) : Prop :=
  ∀ c, entry.cell = some c → entry.formula ≠ none → c.dirty = true

namespace Sheet

structure Linked (s : Sheet) : Prop where
  precedents : ∀ p, s.graph.precedents.of p = (s.formulas[p]?).elim ∅ (·.precedents s.limits)
  mirrored : s.graph.Mirrored
  acyclic : s.graph.Acyclic

structure Wired (s : Sheet) : Prop extends Linked s where
  settled : ∀ p, (s.entry p).Settled

theorem linked_of_empty (m : Matrix) : ({ matrix := m } : Sheet).Linked :=
  ⟨fun _ => rfl, Graph.mirrored_empty, Graph.acyclic_empty⟩

theorem Linked.edge_iff {s : Sheet} (h : s.Linked) {p q : Position} :
    s.graph.Edge q p ↔ ∃ e, s.formulas[p]? = some e ∧ q ∈ e.precedents s.limits := by
  unfold Graph.Edge
  rw [h.precedents]
  cases formula : s.formulas[p]? with
  | none => simp
  | some e => simp

theorem Linked.no_precedents {s : Sheet} (h : s.Linked) {p : Position}
    (none : s.formulas[p]? = none) (q : Position) : ¬ s.graph.Edge q p := by
  rw [h.edge_iff]
  rintro ⟨e, some, _⟩
  rw [none] at some
  cases some

theorem Linked.of_same {s s' : Sheet} (h : s.Linked) (graph : s'.graph = s.graph)
    (formulas : s'.formulas = s.formulas) (limits : s'.limits = s.limits) : s'.Linked := by
  refine ⟨fun p => ?_, ?_, ?_⟩
  · rw [graph, formulas, limits]
    exact h.precedents p
  · rw [graph]
    exact h.mirrored
  · rw [graph]
    exact h.acyclic

theorem Linked.detach {s : Sheet} (h : s.Linked) (p : Position) : (s.detach p).Linked := by
  refine ⟨fun q => ?_, h.mirrored.removePrecedents p, h.acyclic.removePrecedents p⟩
  show (s.graph.removePrecedents p).precedents.of q =
    ((s.formulas.erase p)[q]?).elim ∅ (·.precedents s.limits)
  rw [Graph.precedents_removePrecedents, OrderedMap.erase_at]
  split
  · rfl
  · exact h.precedents q

theorem Linked.accept {s : Sheet} (h : s.Linked) {p : Position} {e : Expr}
    (open_ : s.closesCycle p e = false) : (s.accept p e).Linked := by
  have limits := limits_of_reread (reread_accept s p e)
  refine ⟨fun q => ?_, h.mirrored.setPrecedents p _, h.acyclic.setPrecedents h.mirrored open_⟩
  rw [limits]
  show (s.graph.setPrecedents p (e.precedents s.limits)).precedents.of q =
    ((s.formulas.insert p e)[q]?).elim ∅ (·.precedents s.limits)
  rw [Graph.precedents_setPrecedents, OrderedMap.insert_at]
  split
  · rfl
  · exact h.precedents q

theorem Linked.showError {s : Sheet} (h : s.Linked) (p : Position) (code : ErrorCode)
    (diagnostic : String) : (s.showError p code diagnostic).Linked :=
  h.of_same rfl rfl (limits_of_reread (reread_showError s p code diagnostic))

theorem Linked.refuse {s : Sheet} (h : s.Linked) (p : Position) (e : Expr) : (s.refuse p e).Linked :=
  h.of_same rfl rfl (limits_of_reread (reread_refuse s p e))

/-! ## Reading one formula -/

theorem attach_cases (s : Sheet) (forced : Bool) (p : Position) :
    (∃ fault, parseFormula (s.matrix.raw p) = .error fault ∧
      s.attach forced p = s.showError p fault.code fault.message) ∨
    (∃ e, parseFormula (s.matrix.raw p) = .ok e ∧ (forced = true ∨ s.closesCycle p e = true) ∧
      s.attach forced p = s.refuse p e) ∨
    ∃ e, parseFormula (s.matrix.raw p) = .ok e ∧ (forced = false ∧ s.closesCycle p e = false) ∧
      s.attach forced p = s.accept p e := by
  unfold attach
  cases parsed : parseFormula (s.matrix.raw p) with
  | error fault => exact .inl ⟨fault, rfl, rfl⟩
  | ok e =>
      cases closes : s.closesCycle p e with
      | true => exact .inr (.inl ⟨e, rfl, .inr closes, by simp [closes]⟩)
      | false =>
          cases forced with
          | true => exact .inr (.inl ⟨e, rfl, .inl rfl, by simp⟩)
          | false => exact .inr (.inr ⟨e, rfl, ⟨rfl, closes⟩, by simp [closes]⟩)

theorem Linked.attach {s : Sheet} (h : s.Linked) (forced : Bool) (p : Position) :
    (s.attach forced p).Linked := by
  rcases attach_cases s forced p with ⟨_, _, eq⟩ | ⟨_, _, _, eq⟩ | ⟨_, _, ⟨_, open_⟩, eq⟩
  · rw [eq]
    exact h.showError _ _ _
  · rw [eq]
    exact h.refuse _ _
  · rw [eq]
    exact h.accept open_

theorem attach_unread {s : Sheet} (h : s.Linked) (forced : Bool) {p : Position}
    (unread : (s.entry p).Unread) :
    (s.attach forced p).Linked ∧
    (((s.attach forced p).entry p).Settled ∧ ((s.attach forced p).entry p).Pending) ∧
    ∀ q, q ≠ p → (s.attach forced p).entry q = s.entry q := by
  refine ⟨h.attach forced p, ?_⟩
  obtain ⟨c, formula, entry⟩ := unread
  have cell : s.matrix.cells[p]? = some c := congrArg Entry.cell entry
  have noFormula : s.formulas[p]? = none := congrArg Entry.formula entry
  have noCircular : s.circular[p]? = none := congrArg Entry.circular entry
  have outcome := attach_cases s forced p
  rw [Matrix.raw_of_cell cell] at outcome
  rcases outcome with ⟨fault, parsed, eq⟩ | ⟨e, parsed, _, eq⟩ | ⟨e, parsed, _, eq⟩
  · rw [eq]
    refine ⟨?_, fun q other => ?_⟩
    · rw [entry_showError, if_pos rfl, entry]
      exact ⟨.unparseable formula parsed, fun _ _ some => absurd rfl some⟩
    · rw [entry_showError, if_neg other]
  · rw [eq]
    refine ⟨?_, fun q other => ?_⟩
    · rw [entry_refuse, if_pos rfl, entry, noFormula]
      exact ⟨.circular formula parsed, fun _ _ some => absurd rfl some⟩
    · rw [entry_refuse, if_neg other]
  · rw [eq]
    refine ⟨?_, fun q other => ?_⟩
    · rw [entry_accept, if_pos rfl, entry, noCircular]
      refine ⟨.accepted (c := pendingCell c) formula parsed rfl, fun c' same _ => ?_⟩
      cases same
      rfl
    · rw [entry_accept, if_neg other]

theorem attach_all {s : Sheet} (h : s.Linked) (forced : Bool) (ps : List Position)
    (nodup : ps.Nodup) (unread : ∀ p ∈ ps, (s.entry p).Unread) :
    (ps.foldl (attach · forced) s).Linked ∧
    (∀ p ∈ ps, ((ps.foldl (attach · forced) s).entry p).Settled ∧
      ((ps.foldl (attach · forced) s).entry p).Pending) ∧
    ∀ q, ¬ q ∈ ps → (ps.foldl (attach · forced) s).entry q = s.entry q := by
  induction ps generalizing s with
  | nil => exact ⟨h, by simp, fun _ _ => rfl⟩
  | cons p ps ih =>
      obtain ⟨notLater, nodup⟩ := List.nodup_cons.1 nodup
      obtain ⟨linked, settled, others⟩ := attach_unread h forced (unread p List.mem_cons_self)
      have unread' : ∀ q ∈ ps, ((s.attach forced p).entry q).Unread := by
        intro q mem
        rw [others q fun eq => notLater (by rw [← eq]; exact mem)]
        exact unread q (List.mem_cons_of_mem _ mem)
      obtain ⟨linked', settled', others'⟩ := ih linked nodup unread'
      refine ⟨linked', fun q mem => ?_, fun q absent => ?_⟩
      · rcases List.mem_cons.1 mem with rfl | later
        · rw [List.foldl_cons, others' q notLater]
          exact settled
        · exact settled' q later
      · rw [List.mem_cons, not_or] at absent
        rw [List.foldl_cons, others' q absent.2, others q absent.1]

/-! ## Trying circular formulas again -/

def Blocked (s : Sheet) : Prop :=
  ∀ p e, s.circular[p]? = some e → s.closesCycle p e = true

def heal (s : Sheet) (p : Position) (e : Expr) : Sheet :=
  { s with circular := s.circular.erase p }.accept p e

theorem retry_cases (s : Sheet) (healed : List Position) (p : Position) :
    (retryCell (s, healed) p = (s, healed) ∧
      ∀ e, s.circular[p]? = some e → s.closesCycle p e = true) ∨
    ∃ e, s.circular[p]? = some e ∧ s.closesCycle p e = false ∧
      retryCell (s, healed) p = (s.heal p e, healed ++ [p]) := by
  unfold retryCell
  cases circular : s.circular[p]? with
  | none => exact .inl ⟨by simp [circular], by simp⟩
  | some e =>
      cases closes : s.closesCycle p e with
      | true =>
          refine .inl ⟨by simp [circular, closes], fun e' same => ?_⟩
          cases same
          exact closes
      | false => exact .inr ⟨e, rfl, closes, by simp [circular, closes, heal]⟩

theorem entry_heal (s : Sheet) (p q : Position) (e : Expr) :
    (s.heal p e).entry q =
      if q = p then ⟨(s.entry p).cell.map pendingCell, some e, none⟩ else s.entry q := by
  unfold heal
  rw [entry_accept]
  by_cases same : q = p
  · rw [if_pos same, if_pos same]
    dsimp only [entry]
    rw [OrderedMap.erase_at, if_pos rfl]
  · rw [if_neg same, if_neg same]
    dsimp only [entry]
    rw [OrderedMap.erase_at, if_neg same]

theorem Settled.not_accepted {cell : Option Cell} {formula : Option Expr} {e : Expr}
    (h : Entry.Settled ⟨cell, formula, some e⟩) : formula = none := by
  cases h with
  | circular => rfl

theorem Wired.not_accepted {s : Sheet} (h : s.Wired) {p : Position} {e : Expr}
    (circular : s.circular[p]? = some e) : s.formulas[p]? = none := by
  have settled := h.settled p
  unfold entry at settled
  rw [circular] at settled
  exact Settled.not_accepted settled

theorem Settled.pending {cell : Option Cell} {formula : Option Expr} {e : Expr}
    (h : Entry.Settled ⟨cell, formula, some e⟩) :
    Entry.Settled ⟨cell.map pendingCell, some e, none⟩ := by
  cases h with
  | @circular c e isFormula parsed =>
      exact .accepted (c := pendingCell (errorCell .circular circularDiagnostic c)) isFormula parsed rfl

theorem Wired.heal {s : Sheet} (h : s.Wired) {p : Position} {e : Expr}
    (circular : s.circular[p]? = some e) (open_ : s.closesCycle p e = false) :
    (s.heal p e).Wired := by
  have bare : ({ s with circular := s.circular.erase p } : Sheet).Linked :=
    h.toLinked.of_same rfl rfl rfl
  refine ⟨bare.accept open_, fun q => ?_⟩
  rw [entry_heal]
  by_cases same : q = p
  · rw [if_pos same]
    have settled := h.settled p
    unfold entry at settled
    rw [circular] at settled
    exact Settled.pending settled
  · rw [if_neg same]
    exact h.settled q

theorem edges_heal {s : Sheet} (h : s.Wired) {p : Position} {e : Expr}
    (circular : s.circular[p]? = some e) {a b : Position} (edge : s.graph.Edge a b) :
    (s.heal p e).graph.Edge a b := by
  have noFormula := h.not_accepted circular
  have other : b ≠ p := by
    rintro rfl
    exact h.no_precedents noFormula a edge
  exact Graph.edge_setPrecedents.2 (.inr ⟨other, edge⟩)

theorem closesCycle_mono {s s' : Sheet} (h : s.Linked) (h' : s'.Linked) (limits : s'.limits = s.limits)
    (edges : ∀ a b, s.graph.Edge a b → s'.graph.Edge a b) {p : Position} {e : Expr}
    (closes : s.closesCycle p e = true) : s'.closesCycle p e = true := by
  unfold closesCycle
  rw [limits]
  exact Graph.wouldCreateCycle_mono h.mirrored h'.mirrored edges closes

theorem retry_all {s : Sheet} (h : s.Wired) (ps healed : List Position) :
    ∃ s' new, ps.foldl retryCell (s, healed) = (s', healed ++ new) ∧ s'.Wired ∧
      (∀ a b, s.graph.Edge a b → s'.graph.Edge a b) ∧
      (∀ q, ¬ q ∈ new → s'.entry q = s.entry q) ∧
      (∀ q ∈ new, s'.circular[q]? = none ∧ (s'.entry q).Pending) ∧
      ∀ p ∈ ps, ∀ e, s'.circular[p]? = some e → s'.closesCycle p e = true := by
  -- What trying some cells once more leads to. Accepted formulas only add edges, so what was
  -- refused on the way would be refused again at the end.
  induction ps generalizing s healed with
  | nil => exact ⟨s, [], by simp, h, fun _ _ edge => edge, fun _ _ => rfl, by simp, by simp⟩
  | cons p ps ih =>
      rcases retry_cases s healed p with ⟨stays, closes⟩ | ⟨e, circular, open_, heals⟩
      · -- What stays circular here is the same formula at the end, and edges were only added.
        obtain ⟨s', new, fold, wired, edges, others, gone, blocked⟩ := ih h healed
        have texts := reread_retryAll ps (s, healed)
        rw [fold] at texts
        refine ⟨s', new, by rw [List.foldl_cons, stays, fold], wired, edges, others, gone,
          fun q mem e found => ?_⟩
        rcases List.mem_cons.1 mem with rfl | later
        · have kept : ¬ q ∈ new := fun among => by
            rw [(gone q among).1] at found
            cases found
          have before : s.circular[q]? = s'.circular[q]? := congrArg Entry.circular (others q kept).symm
          exact closesCycle_mono h.toLinked wired.toLinked (limits_of_reread texts) edges
            (closes e (by rw [before, found]))
        · exact blocked q later e found
      · obtain ⟨s', new, fold, wired, edges, others, gone, blocked⟩ :=
          ih (h.heal circular open_) (healed ++ [p])
        have atP : s'.circular[p]? = none ∧ (s'.entry p).Pending := by
          by_cases among : p ∈ new
          · exact gone p among
          · have entry := others p among
            rw [entry_heal, if_pos rfl] at entry
            refine ⟨congrArg Entry.circular entry, fun c cell _ => ?_⟩
            rw [entry] at cell
            obtain ⟨old, _, rfl⟩ := Option.map_eq_some_iff.1 cell
            rfl
        refine ⟨s', p :: new, ?_, wired, fun a b edge => edges a b (edges_heal h circular edge),
          fun q absent => ?_, fun q mem => ?_, fun q mem e' found => ?_⟩
        · rw [List.foldl_cons, heals, fold, List.append_assoc]
          rfl
        · rw [List.mem_cons, not_or] at absent
          rw [others q absent.2, entry_heal, if_neg absent.1]
        · rcases List.mem_cons.1 mem with rfl | later
          · exact atP
          · exact gone q later
        · rcases List.mem_cons.1 mem with rfl | later
          · rw [atP.1] at found
            cases found
          · exact blocked q later e' found

theorem retryCircular_spec {s : Sheet} (h : s.Wired) :
    s.retryCircular.1.Wired ∧ s.retryCircular.1.Blocked ∧
      (∀ q, ¬ q ∈ s.retryCircular.2 → s.retryCircular.1.entry q = s.entry q) ∧
      ∀ q ∈ s.retryCircular.2, (s.retryCircular.1.entry q).Pending := by
  obtain ⟨s', new, fold, wired, _, others, gone, blocked⟩ := retry_all h s.circularCells []
  unfold retryCircular
  rw [fold]
  refine ⟨wired, fun p e found => ?_, others, fun q mem => (gone q mem).2⟩
  have kept : ¬ p ∈ new := fun among => by
    rw [(gone p among).1] at found
    cases found
  have before : s.circular[p]? = s'.circular[p]? := congrArg Entry.circular (others p kept).symm
  have listed : p ∈ s.circularCells :=
    (PositionMap.mem_keys_iff _ _).2 ⟨e, by rw [before, found]⟩
  exact blocked p listed e found

/-! ## Writing and rebuilding -/

theorem writeCell_spec {s : Sheet} (h : s.Wired) (p : Position) (raw : String) :
    (s.writeCell p raw).Wired ∧ ∀ q, q ≠ p → (s.writeCell p raw).entry q = s.entry q := by
  have put : ({ s with matrix := s.matrix.put p raw } : Sheet).Linked :=
    h.toLinked.of_same rfl rfl (s.matrix.put_frame p raw).1
  have detached := put.detach p
  have entries : ∀ q, ({ s with matrix := s.matrix.put p raw }.detach p).entry q =
      if q = p then ⟨if raw = "" then none else some (.ofRaw raw), none, none⟩ else s.entry q := by
    intro q
    rw [entry_detach]
    by_cases same : q = p
    · rw [if_pos same, if_pos same]
      dsimp only
      rw [Matrix.put_at, if_pos rfl]
    · rw [if_neg same, if_neg same, entry_put, if_neg same]
  unfold writeCell
  dsimp only
  by_cases isFormula : isFormulaText raw = true
  · rw [if_pos isFormula]
    have nonempty : raw ≠ "" := by
      rintro rfl
      exact absurd isFormula (by decide)
    have unread : (({ s with matrix := s.matrix.put p raw }.detach p).entry p).Unread := by
      refine ⟨.ofRaw raw, ?_, by rw [entries, if_pos rfl, if_neg nonempty]⟩
      rw [Cell.isFormula, Cell.ofRaw, if_pos isFormula]
      exact isFormula
    obtain ⟨linked, settled, others⟩ := attach_unread detached false unread
    refine ⟨⟨linked, fun q => ?_⟩, fun q other => ?_⟩
    · by_cases same : q = p
      · rw [same]
        exact settled.1
      · rw [others q same, entries, if_neg same]
        exact h.settled q
    · rw [others q other, entries, if_neg other]
  · rw [if_neg isFormula]
    refine ⟨⟨detached, fun q => ?_⟩, fun q other => by rw [entries, if_neg other]⟩
    rw [entries]
    by_cases same : q = p
    · rw [if_pos same]
      by_cases clear : raw = ""
      · rw [if_pos clear]
        exact .blank
      · rw [if_neg clear]
        exact .literal (by simpa using isFormula)
    · rw [if_neg same]
      exact h.settled q

theorem writeAll_spec {s : Sheet} (h : s.Wired) (edits : List (Position × String)) :
    (edits.foldl (fun s edit => s.writeCell edit.1 edit.2) s).Wired ∧
      ∀ q, ¬ q ∈ edits.map (·.1) →
        (edits.foldl (fun s edit => s.writeCell edit.1 edit.2) s).entry q = s.entry q := by
  induction edits generalizing s with
  | nil => exact ⟨h, fun _ _ => rfl⟩
  | cons edit edits ih =>
      obtain ⟨wired, others⟩ := writeCell_spec h edit.1 edit.2
      obtain ⟨wired', others'⟩ := ih wired
      refine ⟨wired', fun q absent => ?_⟩
      rw [List.map_cons, List.mem_cons, not_or] at absent
      rw [List.foldl_cons, others' q absent.2, others q absent.1]

theorem writeCells_spec {s : Sheet} (h : s.Wired) (edits : List (Position × String)) :
    (s.writeCells edits).1.Wired ∧ (s.writeCells edits).1.Blocked ∧
      ∀ q, ¬ q ∈ (s.writeCells edits).2 → (s.writeCells edits).1.entry q = s.entry q := by
  obtain ⟨wired, others⟩ := writeAll_spec h edits
  obtain ⟨wired', blocked, others', _⟩ := retryCircular_spec wired
  refine ⟨wired', blocked, fun q absent => ?_⟩
  have absent : ¬ q ∈ edits.map (·.1) ++ _ := absent
  rw [List.mem_append, not_or] at absent
  exact (others' q absent.2).trans (others q absent.1)

end Sheet

def Matrix.LiteralsRead (m : Matrix) : Prop :=
  ∀ (p : Position) (c : Cell), m.cells[p]? = some c → c.isFormula = false → c = Cell.ofRaw c.raw

theorem Matrix.mem_formulaCells {m : Matrix} {p : Position} :
    p ∈ m.formulaCells ↔ ∃ c : Cell, m.cells[p]? = some c ∧ c.isFormula = true := by
  unfold formulaCells
  constructor
  · intro mem
    obtain ⟨⟨p', c⟩, listed, rfl⟩ := List.mem_map.1 mem
    obtain ⟨stored, formula⟩ := List.mem_filter.1 listed
    exact ⟨c, Std.ExtTreeMap.mem_toList_iff_getElem?_eq_some.1 stored, formula⟩
  · rintro ⟨c, stored, formula⟩
    refine List.mem_map.2 ⟨(p, c), List.mem_filter.2 ⟨?_, formula⟩, rfl⟩
    exact Std.ExtTreeMap.mem_toList_iff_getElem?_eq_some.2 stored

theorem Matrix.isFormulaText_of_mem {m : Matrix} {p : Position} (mem : p ∈ m.formulaCells) :
    isFormulaText (m.raw p) = true := by
  obtain ⟨c, cell, formula⟩ := mem_formulaCells.1 mem
  rw [raw_of_cell cell]
  exact formula

theorem Matrix.formulaCells_nodup (m : Matrix) : m.formulaCells.Nodup := by
  have keys : (m.cells.toList.map (·.1)).Nodup := by
    rw [Std.ExtTreeMap.map_fst_toList_eq_keys]
    exact PositionMap.keys_nodup _
  exact keys.sublist (List.filter_sublist.map _)

namespace Sheet

def rewire (s : Sheet) (circular : List Position) : Sheet :=
  let forced : PositionSet := .ofList circular
  let bare := { s with graph := .empty, formulas := ∅, circular := ∅ }
  (s.matrix.formulaCells.filter forced.contains).foldl (attach · true)
    ((s.matrix.formulaCells.filter fun p => !forced.contains p).foldl (attach · false) bare)

theorem rebuild_eq (s : Sheet) (circular : List Position) :
    s.rebuild circular = (s.rewire circular).retryCircular.1 := rfl

theorem rewire_spec {s : Sheet} (literals : s.matrix.LiteralsRead) (circular : List Position) :
    (s.rewire circular).Wired ∧ ∀ p, ((s.rewire circular).entry p).Pending := by
  unfold rewire
  dsimp only
  generalize (Std.ExtTreeSet.ofList circular : PositionSet) = forced
  let bare : Sheet := { s with graph := .empty, formulas := ∅, circular := ∅ }
  have entries : ∀ p, bare.entry p = ⟨s.matrix.cells[p]?, none, none⟩ := fun _ => rfl
  have unread : ∀ p ∈ s.matrix.formulaCells, (bare.entry p).Unread := by
    intro p mem
    obtain ⟨c, cell, formula⟩ := Matrix.mem_formulaCells.1 mem
    exact ⟨c, formula, by rw [entries, cell]⟩
  have linked : bare.Linked := linked_of_empty s.matrix
  have nodup := s.matrix.formulaCells_nodup
  obtain ⟨linked₁, renewed₁, others₁⟩ := attach_all linked false
    (s.matrix.formulaCells.filter fun p => !forced.contains p) (nodup.sublist List.filter_sublist)
    fun p mem => unread p (List.mem_filter.1 mem).1
  generalize (s.matrix.formulaCells.filter fun p => !forced.contains p).foldl
    (attach · false) bare = s₁ at *
  obtain ⟨linked₂, renewed₂, others₂⟩ := attach_all linked₁ true
    (s.matrix.formulaCells.filter forced.contains) (nodup.sublist List.filter_sublist) (by
      intro p mem
      obtain ⟨listed, isForced⟩ := List.mem_filter.1 mem
      rw [others₁ p (by simp [isForced])]
      exact unread p listed)
  generalize (s.matrix.formulaCells.filter forced.contains).foldl (attach · true) s₁ = s₂ at *
  -- Each formula was read in one of the two rounds, and the other cells are literals.
  have renewed : ∀ p, (s₂.entry p).Settled ∧ (s₂.entry p).Pending := by
    intro p
    by_cases listed : p ∈ s.matrix.formulaCells
    · cases isForced : forced.contains p with
      | true => exact renewed₂ p (List.mem_filter.2 ⟨listed, isForced⟩)
      | false =>
          rw [others₂ p (by simp [isForced])]
          exact renewed₁ p (List.mem_filter.2 ⟨listed, by simp [isForced]⟩)
    · rw [others₂ p (by simp [listed]), others₁ p (by simp [listed]), entries]
      refine ⟨?_, fun _ _ some => absurd rfl some⟩
      cases cell : s.matrix.cells[p]? with
      | none => exact .blank
      | some c =>
          have literal : c.isFormula = false := by
            cases formula : c.isFormula with
            | false => rfl
            | true => exact absurd (Matrix.mem_formulaCells.2 ⟨c, cell, formula⟩) listed
          rw [literals p c cell literal]
          exact .literal literal
  exact ⟨⟨linked₂, fun p => (renewed p).1⟩, fun p => (renewed p).2⟩

/-- Reading all formulas of a matrix anew settles every position, whatever the sheet was like, and
leaves every accepted formula stale. -/
theorem rebuild_spec {s : Sheet} (literals : s.matrix.LiteralsRead) (circular : List Position) :
    (s.rebuild circular).Wired ∧ (s.rebuild circular).Blocked ∧
      ∀ p, ((s.rebuild circular).entry p).Pending := by
  obtain ⟨rewired, pending⟩ := rewire_spec literals circular
  obtain ⟨wired, blocked, others, healed⟩ := retryCircular_spec rewired
  rw [rebuild_eq]
  refine ⟨wired, blocked, fun p => ?_⟩
  by_cases among : p ∈ (s.rewire circular).retryCircular.2
  · exact healed p among
  · rw [others p among]
    exact pending p

end Sheet

end Spreadsheet
