import Spreadsheet.Proofs.Session.Undo

/-!
# Every step of the history can be restored

Each step on either stack belongs to a matrix that is still there, and the steps of one matrix lead
from its present snapshot to earlier or later ones, whatever happened to other matrices in between. So
undo and redo do something whenever their stack holds a step, no step is lost, and one takes the other
back exactly, unless the sheet that is brought back crashes.
-/

namespace Spreadsheet

namespace Sheet

theorem inverseOf_recordCells (s u : Sheet) (description : String) (ps : List Position) :
    s.inverseOf (u.recordCells description ps) = s.recordCells description ps := by
  have positions : ((Std.ExtTreeSet.ofList ps : PositionSet).toList.map fun p => (p, u.matrix.raw p)).map
      (·.1) = (Std.ExtTreeSet.ofList ps : PositionSet).toList := by
    rw [List.map_map]
    exact List.map_id _
  have once : (.ofList (Std.ExtTreeSet.ofList ps : PositionSet).toList : PositionSet) = .ofList ps := by
    apply Std.ExtTreeSet.ext_mem
    simp
  have inverse : s.inverseOf (u.recordCells description ps) = s.recordCells description
      (((Std.ExtTreeSet.ofList ps : PositionSet).toList.map fun p => (p, u.matrix.raw p)).map (·.1)) := rfl
  rw [inverse, positions]
  unfold recordCells
  rw [once]

theorem Recalls.inverseOf_inverseOf {s t s' t' : Sheet} {step : Step} (h : s.Recalls t step)
    (there : s'.snapshot = s.snapshot) : s'.inverseOf (t'.inverseOf step) = step := by
  cases h with
  | @cells description ps =>
      rw [inverseOf_recordCells, inverseOf_recordCells, recordCells_of_snapshot there]
  | matrix description => exact recordMatrix_of_snapshot there description

end Sheet

namespace SessionSnapshot
variable {now : SessionSnapshot} {m m' : MatrixSnapshot}

theorem names_replace (now : SessionSnapshot) (m : MatrixSnapshot) :
    (now.replace m).names = now.names := by
  unfold names replace
  dsimp only
  rw [List.map_map]
  apply List.map_congr_left
  intro old _
  dsimp only [Function.comp]
  split
  · rename_i same
    exact (eq_of_beq same).symm
  · rfl

theorem mem_replace (h : m ∈ (now.replace m').matrices) :
    m = m' ∨ m ∈ now.matrices ∧ m.name ≠ m'.name := by
  obtain ⟨old, stored, rfl⟩ := List.mem_map.1 h
  split
  · exact .inl rfl
  · rename_i other
    exact .inr ⟨stored, by simpa using other⟩

theorem find?_of_mem (nodup : now.names.Nodup) (mem : m ∈ now.matrices) :
    now.find? m.name = some m := by
  cases found : now.find? m.name with
  | none => simpa using List.find?_eq_none.1 found m mem
  | some m' =>
      have name : m'.name = m.name := by simpa using List.find?_some found
      rw [List.inj_on_of_nodup_map nodup (List.mem_of_find?_eq_some found) mem name]

theorem find?_replace (nodup : now.names.Nodup) (known : m.name ∈ now.names) :
    (now.replace m).find? m.name = some m := by
  obtain ⟨old, stored, same⟩ := List.mem_map.1 known
  apply find?_of_mem
  · rwa [names_replace]
  · exact List.mem_map.2 ⟨old, stored, by simp [same]⟩

end SessionSnapshot

namespace Session

/-! ## Steps of one matrix -/

inductive Traced (limits : Limits) : MatrixSnapshot → List Step → Prop
  | here (m : MatrixSnapshot) : Traced limits m []
  | step {s t : Sheet} {step : Step} {steps : List Step} : s.Regular limits → t.Regular limits →
      s.name = t.name → s.Recalls t step → Traced limits s.snapshot steps →
      Traced limits t.snapshot (step :: steps)

variable {limits : Limits}

theorem Traced.front {m : MatrixSnapshot} {steps steps' : List Step} (h : Traced limits m steps)
    (shorter : steps' <+: steps) : Traced limits m steps' := by
  induction h generalizing steps' with
  | here =>
      rw [List.prefix_nil.1 shorter]
      exact .here _
  | step regular regular' name recalls _ ih =>
      cases steps' with
      | nil => exact .here _
      | cons step steps' =>
          obtain ⟨rfl, within⟩ := List.cons_prefix_cons.1 shorter
          exact .step regular regular' name recalls (ih within)

/-! ## Steps of all matrices -/

def stepsOf (name : String) (steps : List Step) : List Step :=
  steps.filter fun step => step.matrix == name

theorem stepsOf_cons_same {name : String} {step : Step} (same : step.matrix = name)
    (steps : List Step) : stepsOf name (step :: steps) = step :: stepsOf name steps :=
  List.filter_cons_of_pos (beq_iff_eq.2 same)

theorem stepsOf_cons_other {name : String} {step : Step} (other : step.matrix ≠ name)
    (steps : List Step) : stepsOf name (step :: steps) = stepsOf name steps :=
  List.filter_cons_of_neg (by simpa using other)

/-- Every step is for a matrix of the snapshot, and those for one matrix lead on from it. -/
structure Along (limits : Limits) (now : SessionSnapshot) (steps : List Step) : Prop where
  known : ∀ step ∈ steps, step.matrix ∈ now.names
  traced : ∀ m ∈ now.matrices, Traced limits m (stepsOf m.name steps)

section
variable {s t : Sheet} {now before : SessionSnapshot} {step : Step} {steps : List Step}

theorem Along.nil (limits : Limits) (now : SessionSnapshot) : Along limits now [] :=
  ⟨nofun, fun m _ => .here m⟩

theorem Along.take (h : Along limits now steps) (n : Nat) : Along limits now (steps.take n) :=
  ⟨fun step mem => h.known step (List.mem_of_mem_take mem),
    fun m mem => (h.traced m mem).front ((List.take_prefix n steps).filter _)⟩

theorem Along.append (h : Along limits now steps) {m : MatrixSnapshot} (new : ¬ m.name ∈ now.names) :
    Along limits ⟨now.matrices ++ [m]⟩ steps := by
  constructor
  · intro step mem
    unfold SessionSnapshot.names
    rw [List.map_append]
    exact List.mem_append_left _ (h.known step mem)
  · intro m' mem
    rcases List.mem_append.1 mem with old | added
    · exact h.traced m' old
    · rw [List.mem_singleton.1 added]
      -- No step is for a matrix that is not there, so a new one has none.
      have none : stepsOf m.name steps = [] := by
        apply List.filter_eq_nil_iff.2
        intro step mem same
        apply new
        rw [← eq_of_beq same]
        exact h.known step mem
      rw [none]
      exact .here _

theorem Along.forget (h : Along limits now steps) (name : String) :
    Along limits ⟨now.matrices.filter fun m => m.name != name⟩
      (steps.filter fun step => step.matrix != name) := by
  constructor
  · intro step mem
    obtain ⟨mem, other⟩ := List.mem_filter.1 mem
    obtain ⟨m, stored, named⟩ := List.mem_map.1 (h.known step mem)
    refine List.mem_map.2 ⟨m, List.mem_filter.2 ⟨stored, ?_⟩, named⟩
    rwa [named]
  · intro m mem
    obtain ⟨stored, other⟩ := List.mem_filter.1 mem
    have kept : stepsOf m.name (steps.filter fun step => step.matrix != name) = stepsOf m.name steps := by
      unfold stepsOf
      rw [List.filter_filter]
      apply List.filter_congr
      intro step _
      cases same : step.matrix == m.name with
      | false => rfl
      | true =>
          rw [eq_of_beq same]
          exact other
    rw [kept]
    exact h.traced m stored

theorem Along.push (bridge : Bridge limits s t before now step) (h : Along limits before steps) :
    Along limits now (step :: steps) := by
  have named : step.matrix = t.snapshot.name := bridge.recalls.matrix_eq.trans bridge.name
  have mem : t.snapshot ∈ now.matrices := List.mem_of_find?_eq_some bridge.stored'
  have names : now.names = before.names := by
    rw [← bridge.now_eq, SessionSnapshot.names_replace]
  constructor
  · rw [List.forall_mem_cons, named, names]
    exact ⟨by rw [← names]; exact List.mem_map_of_mem mem, h.known⟩
  · intro m listed
    rw [← bridge.now_eq] at listed
    obtain rfl | ⟨stored, other⟩ := SessionSnapshot.mem_replace listed
    · have earlier := h.traced s.snapshot (List.mem_of_find?_eq_some bridge.stored)
      rw [show s.snapshot.name = t.snapshot.name from bridge.name] at earlier
      rw [stepsOf_cons_same named]
      exact .step bridge.regular bridge.regular' bridge.name bridge.recalls earlier
    · rw [stepsOf_cons_other (named ▸ other.symm)]
      exact h.traced m stored

theorem Along.pop (h : Along limits now (step :: steps)) (nodup : now.names.Nodup) :
    ∃ s t before, Bridge limits s t before now step ∧ Along limits before steps := by
  obtain ⟨known, traced⟩ := h
  rw [List.forall_mem_cons] at known
  obtain ⟨m, mem, named⟩ := List.mem_map.1 known.1
  have trace := traced m mem
  rw [stepsOf_cons_same named.symm] at trace
  generalize tail : stepsOf m.name steps = rest at trace
  cases trace with
  | @step s t _ _ regular regular' name recalls earlier =>
      have stored := SessionSnapshot.find?_of_mem nodup mem
      have named' : s.snapshot.name = t.snapshot.name := name
      have stored' : (now.replace s.snapshot).find? s.name = some s.snapshot := by
        apply SessionSnapshot.find?_replace nodup
        rw [named']
        exact List.mem_map_of_mem mem
      have now_eq : (now.replace s.snapshot).replace t.snapshot = now := by
        rw [SessionSnapshot.replace_replace now name, SessionSnapshot.replace_self nodup stored]
      refine ⟨s, t, now.replace s.snapshot,
        ⟨regular, regular', name, recalls, stored', stored, rfl, now_eq⟩, ?_, ?_⟩
      · rw [SessionSnapshot.names_replace]
        exact known.2
      · intro m listed
        obtain rfl | ⟨before, other⟩ := SessionSnapshot.mem_replace listed
        · rwa [← tail, ← named'] at earlier
        · rw [← stepsOf_cons_other (recalls.matrix_eq.trans_ne other.symm) steps]
          exact traced m before

end

/-! ## Sessions with steps that can be restored -/

structure Restorable (options : Options) (s : Session) : Prop where
  regular : s.Regular options
  undos : Along options.limits s.snapshot s.history.undos
  redos : Along options.limits s.snapshot s.history.redos
  few : s.history.undos.length + s.history.redos.length ≤ options.undoLimit

section
variable {options : Options} {s s' : Session} {name : String}

theorem Regular.names_snapshot (h : s.Regular options) : s.snapshot.names.Nodup := by
  rw [Session.names_snapshot]
  exact h.names

theorem Restorable.turned (h : s.Restorable options) : s.turned.Restorable options :=
  ⟨h.regular.turned, h.redos, h.undos, by rw [Nat.add_comm]; exact h.few⟩

theorem Bridge.revert_inverse {c d : Session} {x y : Sheet} {before now : SessionSnapshot}
    {step inverse again : Step} (bridge : Bridge limits x y before now step)
    (back : Bridge limits y x now before inverse) (ok : s.revert step = .ok (c, inverse))
    (there : s'.snapshot = before) (ok' : s'.revert inverse = .ok (d, again)) : again = step := by
  obtain ⟨_, _, _, _, _, _, _, _, rfl⟩ := revert_ok ok
  obtain ⟨sheet', _, _, _, found, _, _, _, rfl⟩ := revert_ok ok'
  have stored := find_snapshot_of_sheet found
  rw [there, back.recalls.matrix_eq, ← bridge.name, bridge.stored] at stored
  exact bridge.recalls.inverseOf_inverseOf (Option.some.inj stored).symm

theorem pushBounded_of_fits {max : Nat} {step : Step} {steps : List Step}
    (fits : steps.length < max) : History.pushBounded max step steps = step :: steps :=
  List.take_of_length_le fits

theorem Restorable.undo_cons (h : s.Restorable options) {step : Step} {rest : List Step} {applied : Bool}
    (top : s.history.undos = step :: rest) (undone : s.undo = some (s', applied)) :
    ∃ x y before c inverse, Bridge options.limits x y before s.snapshot step ∧
      Bridge options.limits y x s.snapshot before inverse ∧ Along options.limits before rest ∧
      s.revert step = .ok (c, inverse) ∧ c.snapshot = before ∧ applied = true ∧
      s' = { c with history := ⟨rest, inverse :: s.history.redos, s.history.max⟩ } := by
  obtain ⟨regular, undos, _, few⟩ := h
  rw [top] at undos few
  obtain ⟨x, y, before, bridge, earlier⟩ := undos.pop regular.names_snapshot
  rcases bridge.revert regular with ⟨_, crashes⟩ | ⟨_, c, inverse, reverted, same, back⟩
  · rw [Session.undo_cons top, crashes] at undone
    cases undone
  · have fits : s.history.redos.length < s.history.max := by
      rw [regular.history.max_eq]
      rw [List.length_cons] at few
      omega
    rw [undo_of_revert top reverted] at undone
    unfold History.pushRedo at undone
    rw [pushBounded_of_fits fits] at undone
    cases undone
    exact ⟨x, y, before, c, inverse, bridge, back, earlier, reverted, same, rfl, rfl⟩

section
variable {applied : Bool}

theorem Restorable.undo (h : s.Restorable options) (undone : s.undo = some (s', applied)) :
    s'.Restorable options := by
  have regular := h.regular.undo undone
  cases top : s.history.undos with
  | nil =>
      rw [undo_nil top] at undone
      cases undone
      exact h
  | cons step rest =>
      obtain ⟨x, y, before, c, inverse, bridge, back, earlier, _, same, _, rfl⟩ := h.undo_cons top undone
      have few := h.few
      rw [top, List.length_cons] at few
      refine ⟨regular, ?_, ?_, ?_⟩
      · show Along options.limits c.snapshot rest
        rwa [same]
      · show Along options.limits c.snapshot (inverse :: s.history.redos)
        rw [same]
        exact .push back h.redos
      · show rest.length + (inverse :: s.history.redos).length ≤ options.undoLimit
        rw [List.length_cons]
        omega

theorem Restorable.redo (h : s.Restorable options) (redone : s.redo = some (s', applied)) :
    s'.Restorable options := by
  rw [redo_eq] at redone
  obtain ⟨⟨t, _⟩, undone, same⟩ := Option.map_eq_some_iff.1 redone
  cases same
  exact (h.turned.undo undone).turned

def historyLength (s : Session) : Nat := s.history.undos.length + s.history.redos.length

theorem Restorable.undone (h : s.Restorable options) (undone : s.undo = some (s', applied)) :
    applied = s.history.canUndo ∧ s'.historyLength = s.historyLength := by
  unfold History.canUndo historyLength
  cases top : s.history.undos with
  | nil =>
      rw [undo_nil top] at undone
      cases undone
      exact ⟨rfl, by rw [top]⟩
  | cons step rest =>
      obtain ⟨_, _, _, _, _, _, _, _, _, _, rfl, rfl⟩ := h.undo_cons top undone
      refine ⟨rfl, ?_⟩
      simp
      omega

theorem Restorable.redo_undo (h : s.Restorable options) (can : s.history.canUndo = true)
    (undone : s.undo = some (s', applied)) :
    (¬ s.Shows ∧ s'.redo = none) ∨
      ∃ t, s'.redo = some (t, true) ∧ t.snapshot = s.snapshot ∧ t.history = s.history := by
  cases top : s.history.undos with
  | nil => simp [History.canUndo, top] at can
  | cons step rest =>
      have regular := (h.undo undone).turned.regular
      obtain ⟨x, y, before, c, inverse, bridge, back, _, reverted, same, _, rfl⟩ := h.undo_cons top undone
      have bound := h.regular.history
      have few := bound.undos
      rw [redo_eq]
      generalize there_eq : ({ c with history := ⟨rest, inverse :: s.history.redos, s.history.max⟩ } :
        Session).turned = there at regular
      have here : there.snapshot = before := by
        rw [← there_eq]
        exact same
      have top' : there.history.undos = inverse :: s.history.redos := by rw [← there_eq]; rfl
      rw [← here] at back
      rcases back.revert regular with ⟨hides, crashes⟩ | ⟨_, d, again, reverted', same', _⟩
      · rw [Session.undo_cons top', crashes]
        exact .inl ⟨fun shows => hides (back.shows h.regular shows), rfl⟩
      · rw [here] at back
        have fits : rest.length < s.history.max := by
          rw [bound.max_eq]
          rw [top, List.length_cons] at few
          exact few
        rw [undo_of_revert top' reverted', bridge.revert_inverse back reverted here reverted']
        refine .inr ⟨_, rfl, same', ?_⟩
        rw [← there_eq]
        show History.mk (History.pushBounded s.history.max step rest) s.history.redos s.history.max = _
        rw [pushBounded_of_fits fits, ← top]

theorem turned_undo (redone : s.redo = some (s', applied)) : s.turned.undo = some (s'.turned, applied) := by
  rw [redo_eq] at redone
  obtain ⟨⟨t, _⟩, undone, same⟩ := Option.map_eq_some_iff.1 redone
  cases same
  exact undone

theorem Restorable.redone (h : s.Restorable options) (redone : s.redo = some (s', applied)) :
    applied = s.history.canRedo ∧ s'.historyLength = s.historyLength := by
  obtain ⟨same, length⟩ := h.turned.undone (turned_undo redone)
  exact ⟨same, (Nat.add_comm _ _).trans (length.trans (Nat.add_comm _ _))⟩

theorem Restorable.undo_redo (h : s.Restorable options) (can : s.history.canRedo = true)
    (redone : s.redo = some (s', applied)) :
    (¬ s.Shows ∧ s'.undo = none) ∨
      ∃ t, s'.undo = some (t, true) ∧ t.snapshot = s.snapshot ∧ t.history = s.history := by
  rcases h.turned.redo_undo can (turned_undo redone) with ⟨hides, crashes⟩ | ⟨t, undone, snapshot, history⟩
  · rw [redo_eq, Option.map_eq_none_iff] at crashes
    exact .inl ⟨hides, crashes⟩
  · exact .inr ⟨t.turned, turned_undo undone, snapshot, congrArg History.turned history⟩

end

/-! ## Steps that crash -/

def Hides (s : Session) (step : Step) : Prop :=
  ∃ sheet restored, s.sheet step.matrix = .ok sheet ∧ sheet.restore step = .ok restored ∧ ¬ restored.Shows

theorem Regular.revert_crash_iff (h : s.Regular options) {step : Step} :
    s.revert step = .error .crash ↔ s.Hides step := by
  constructor
  · intro crashes
    rcases bind_eq_error.1 crashes with missing | ⟨sheet, found, crashes⟩
    · cases found : s.sheet step.matrix <;> rw [found] at missing <;> cases missing
    · rcases bind_eq_error.1 crashes with refused | ⟨restored, ok, crashes⟩
      · cases restored : sheet.restore step <;> rw [restored] at refused <;> cases refused
      · have found := ofExcept_eq_ok.1 found
        have ok := ofExcept_eq_ok.1 ok
        obtain ⟨sound, _, pending⟩ := Sheet.restore_ok (h.holds.sheet found).toSound ok
        refine ⟨sheet, restored, found, ok, fun shows => ?_⟩
        obtain ⟨result, ran⟩ :=
          Option.isSome_iff_exists.1 ((sound.truthful pending).recalcAll_isSome_iff.2 shows)
        rw [ran] at crashes
        cases crashes
  · rintro ⟨sheet, restored, found, ok, hides⟩
    obtain ⟨sound, _, pending⟩ := Sheet.restore_ok (h.holds.sheet found).toSound ok
    have dies := Option.not_isSome_iff_eq_none.1 (mt (sound.truthful pending).recalcAll_isSome_iff.1 hides)
    rw [revert_of_restored found ok, dies]
    rfl

theorem Regular.undo_crash_iff (h : s.Regular options) :
    s.undo = none ↔ ∃ step, s.history.undos.head? = some step ∧ s.Hides step := by
  cases top : s.history.undos with
  | nil =>
      rw [undo_nil top]
      exact ⟨nofun, nofun⟩
  | cons step rest =>
      rw [Session.undo_cons top]
      simp only [List.head?_cons, Option.some.injEq, exists_eq_left', ← h.revert_crash_iff]
      cases s.revert step with
      | ok result => exact ⟨nofun, nofun⟩
      | error halt =>
          cases halt with
          | fault fault => exact ⟨nofun, nofun⟩
          | crash => exact ⟨fun _ => rfl, fun _ => rfl⟩

theorem Regular.redo_crash_iff (h : s.Regular options) :
    s.redo = none ↔ ∃ step, s.history.redos.head? = some step ∧ s.Hides step := by
  rw [redo_eq, Option.map_eq_none_iff]
  exact h.turned.undo_crash_iff

/-! ## What operations keep -/

theorem mem_names_snapshot : name ∈ s.snapshot.names ↔ name ∈ s.names := by
  rw [Session.names_snapshot]

theorem Restorable.addMatrix (h : s.Restorable options) (ok : s.addMatrix name = .ok s') :
    s'.Restorable options := by
  have regular := h.regular.addMatrix ok
  obtain ⟨_, _, ok⟩ := bind_eq_ok.1 ok
  split at ok
  · cases ok
  · rename_i new
    obtain ⟨sheet, created, ok⟩ := bind_eq_ok.1 ok
    cases ok
    have absent : ¬ sheet.snapshot.name ∈ s.snapshot.names := by
      rw [mem_names_snapshot, show sheet.snapshot.name = name from (Sheet.create_ok created).2.2.1]
      exact fun mem => new (List.contains_iff_mem.2 mem)
    have along : ∀ steps, Along options.limits s.snapshot steps → Along options.limits
        ({ s with sheets := s.sheets ++ [sheet] } : Session).snapshot steps := by
      intro steps along
      have snapshot : ({ s with sheets := s.sheets ++ [sheet] } : Session).snapshot =
          ⟨s.snapshot.matrices ++ [sheet.snapshot]⟩ := congrArg SessionSnapshot.mk List.map_append
      rw [snapshot]
      exact along.append absent
    exact ⟨regular, along _ h.undos, along _ h.redos, h.few⟩

theorem Restorable.removeMatrix (h : s.Restorable options) (ok : s.removeMatrix name = .ok s') :
    s'.Restorable options := by
  have regular := h.regular.removeMatrix ok
  obtain ⟨_, _, ok⟩ := bind_eq_ok.1 ok
  cases ok
  have along : ∀ steps, Along options.limits s.snapshot steps → Along options.limits
      ({ s with sheets := s.sheets.filter fun sheet => sheet.name != name } : Session).snapshot
      (steps.filter fun step => step.matrix != name) := by
    intro steps along
    have snapshot : ({ s with sheets := s.sheets.filter fun sheet => sheet.name != name } : Session).snapshot =
        ⟨s.snapshot.matrices.filter fun m => m.name != name⟩ :=
      congrArg SessionSnapshot.mk (List.filter_map (p := fun m : MatrixSnapshot => m.name != name)).symm
    rw [snapshot]
    exact along.forget name
  have undos := List.length_filter_le (fun step => step.matrix != name) s.history.undos
  have redos := List.length_filter_le (fun step => step.matrix != name) s.history.redos
  exact ⟨regular, along _ h.undos, along _ h.redos, (Nat.add_le_add undos redos).trans h.few⟩

theorem Restorable.edited (h : s.Restorable options) (edited : s.Edited options.limits s') :
    s'.Restorable options := by
  have regular := h.regular.edited edited
  obtain ⟨sheet, sheet', step, history, bridge⟩ := edited.bridge h.regular
  have undos : s'.history.undos = (step :: s.history.undos).take s.history.max := by rw [history]; rfl
  have redos : s'.history.redos = [] := by rw [history]; rfl
  refine ⟨regular, ?_, ?_, ?_⟩
  · rw [undos]
    exact (Along.push bridge h.undos).take _
  · rw [redos]
    exact .nil _ _
  · rw [redos]
    exact regular.history.undos

theorem Restorable.recalculate (h : s.Restorable options) {cancelled : Bool}
    (done : s.after (.recalculate name cancelled) = some s') : s'.Restorable options := by
  obtain ⟨snapshot, history⟩ := snapshot_recalculate h.regular done
  refine ⟨h.regular.after done, ?_, ?_, ?_⟩
  · rw [snapshot, history]
    exact h.undos
  · rw [snapshot, history]
    exact h.redos
  · rw [history]
    exact h.few

theorem Restorable.load (h : s.Restorable options) {snapshot : SessionSnapshot}
    (ok : s.load snapshot = .ok s') : s'.Restorable options := by
  have regular := h.regular.load ok
  obtain ⟨sheets, _, ok⟩ := bind_eq_ok.1 ok
  cases ok
  exact ⟨regular, .nil _ _, .nil _ _, Nat.zero_le _⟩

theorem Restorable.after (h : s.Restorable options) {op : Operation} (done : s.after op = some s') :
    s'.Restorable options := by
  rcases after_eq_some done with ⟨reply, performed⟩ | rfl
  · cases op with
    | addMatrix name =>
        obtain ⟨_, added, same⟩ := map_eq_ok.1 performed
        cases same
        exact h.addMatrix (ofExcept_eq_ok.1 added)
    | removeMatrix name =>
        obtain ⟨_, removed, same⟩ := map_eq_ok.1 performed
        cases same
        exact h.removeMatrix (ofExcept_eq_ok.1 removed)
    | setCell | setCells | editLine =>
        exact h.edited (edited_perform h.regular.holds (by trivial) performed)
    | recalculate name cancelled => exact h.recalculate done
    | load snapshot =>
        obtain ⟨_, loaded, same⟩ := map_eq_ok.1 performed
        cases same
        exact h.load loaded
    | undo =>
        obtain ⟨_, undone, same⟩ := map_eq_ok.1 performed
        cases same
        exact h.undo (ofOption_eq_ok.1 undone)
    | redo =>
        obtain ⟨_, redone, same⟩ := map_eq_ok.1 performed
        cases same
        exact h.redo (ofOption_eq_ok.1 redone)
  · exact h

end

theorem Reachable.restorable {options : Options} {s : Session} (h : Reachable options s) :
    s.Restorable options := by
  induction h with
  | create => exact ⟨Reachable.create.regular, .nil _ _, .nil _ _, Nat.zero_le _⟩
  | after op _ done ih => exact ih.after done

/-! ## The property -/

theorem canRedo_of_crash {s : Session} (crashes : s.redo = none) : s.history.canRedo = true := by
  unfold redo History.popRedo at crashes
  unfold History.canRedo
  cases top : s.history.redos with
  | nil =>
      rw [top] at crashes
      cases crashes
  | cons step rest => rfl

def addedAgain : Session := reached { undoLimit := 3 }
  [.addMatrix "S", .addMatrix "T", .setCell "S" ⟨0, 0⟩ "old" false, .setCell "T" ⟨0, 0⟩ "=A2" true,
    .removeMatrix "S", .addMatrix "S", .setCell "S" ⟨0, 0⟩ "new" false,
    .editLine "T" (.insert .row 0), .removeMatrix "U", .undo]

theorem addedAgain_answers : addedAgain.undo.map Prod.snd = some true ∧
    addedAgain.redo.map Prod.snd = some true ∧
    (addedAgain.sheets.all fun sheet => (sheet.recalcAll false).isSome) = true := by
  cbv

end Session

end Spreadsheet
