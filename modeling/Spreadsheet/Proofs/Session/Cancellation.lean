import Spreadsheet.Proofs.Session.Crash
import Spreadsheet.Proofs.Session.Stacks
import Spreadsheet.Proofs.Sheet.SameWiring

/-!
# Cancellation shows in what is pending only

Two runs of the same operations, each with its own choice of the writes and recalculations that were
cancelled before they started, stay in step. After every operation their sheets have the same texts and
the same wiring and their histories are equal, and a reader is given the same values, evaluated on
demand where one run has left them stale. What may differ is which values are pending, and the
statistics. A run that evaluates may meet a formula that crashes where the other one goes on, and leaves
a session in which that formula still crashes.
-/

namespace Spreadsheet
open List (Forall₂)

def Operation.uncancelled : Operation → Operation
  | .setCell name p raw _ => .setCell name p raw false
  | .recalculate name _ => .recalculate name false
  | op => op

theorem Operation.of_uncancelled {op op' : Operation} (same : op'.uncancelled = op.uncancelled) :
    op' = op ∨
    (∃ name p raw cancelled cancelled', op = .setCell name p raw cancelled ∧
      op' = .setCell name p raw cancelled') ∨
    ∃ name cancelled cancelled', op = .recalculate name cancelled ∧ op' = .recalculate name cancelled' := by
  cases op <;> cases op' <;> simp_all [uncancelled]

def Reply.Like : Reply → Reply → Prop
  | .done, .done => True
  | .cell v _, .cell v' _ => v'.position = v.position ∧ v'.shown = v.shown
  | .stats _, .stats _ => True
  | .applied b, .applied b' => b' = b
  | _, _ => False

namespace Session

structure InStep (s s' : Session) : Prop where
  options : s'.options = s.options
  sheets : Forall₂ Sheet.SameWiring s.sheets s'.sheets
  history : s'.history = s.history

section
variable {s s' : Session}

theorem map_of_forall₂ {α β : Type} {R : α → α → Prop} {f : α → β} (each : ∀ a b, R a b → f b = f a)
    {xs ys : List α} (h : Forall₂ R xs ys) : ys.map f = xs.map f := by
  induction h with
  | nil => rfl
  | cons related _ ih => rw [List.map_cons, List.map_cons, each _ _ related, ih]

theorem InStep.names (h : s.InStep s') : s'.names = s.names :=
  map_of_forall₂ (f := Sheet.name) (fun _ _ same => Sheet.SameWiring.name same) h.sheets

theorem InStep.snapshot (h : s.InStep s') : s'.snapshot = s.snapshot :=
  congrArg SessionSnapshot.mk
    (map_of_forall₂ (f := Sheet.snapshot) (fun _ _ same => Sheet.SameWiring.snapshot same) h.sheets)

theorem InStep.sheet (h : s.InStep s') (name : String) :
    Matched Sheet.SameWiring (s.sheet name) (s'.sheet name) := by
  have sheets := h.sheets
  unfold Session.sheet
  generalize s.sheets = xs at sheets ⊢
  generalize s'.sheets = ys at sheets ⊢
  induction sheets with
  | nil => exact rfl
  | @cons sheet sheet' _ _ same _ ih =>
      rw [List.find?_cons, List.find?_cons, same.name]
      cases sheet.name == name with
      | true => exact same
      | false => exact ih

theorem InStep.replace (h : s.InStep s') (name : String) {sheet sheet' : Sheet}
    (same : sheet.SameWiring sheet') : (s.replace name sheet).InStep (s'.replace name sheet') := by
  refine ⟨h.options, ?_, h.history⟩
  refine List.rel_map (R := Sheet.SameWiring) ?_ h.sheets
  intro old old' alike
  dsimp only
  rw [alike.name]
  split
  · exact same
  · exact alike

theorem InStep.with_history (h : s.InStep s') (history : History) :
    ({ s with history } : Session).InStep { s' with history } := ⟨h.options, h.sheets, rfl⟩

/-! ## Operations -/

theorem InStep.addMatrix (h : s.InStep s') (name : String) :
    Matched InStep (s.addMatrix name) (s'.addMatrix name) := by
  unfold Session.addMatrix
  rw [h.names, h.options]
  refine Matched.bind (.of_eq (R := fun _ _ => True) rfl fun _ => trivial) fun _ _ _ _ _ => ?_
  split
  · exact rfl
  · refine Matched.bind (.of_eq rfl Sheet.SameWiring.refl) fun _ _ _ _ same => ?_
    exact ⟨rfl, List.rel_append h.sheets (.cons same .nil), h.history⟩

theorem InStep.removeMatrix (h : s.InStep s') (name : String) :
    Matched InStep (s.removeMatrix name) (s'.removeMatrix name) := by
  refine (h.sheet name).bind fun _ _ _ _ _ => ?_
  refine ⟨h.options, ?_, congrArg (History.forget · name) h.history⟩
  refine List.rel_filter (R := Sheet.SameWiring) ?_ h.sheets
  intro sheet sheet' same
  dsimp only
  rw [same.name]

/-- A session that goes on alone, while the same operation crashed the other run: one of the two was
cancelled, and the formula still crashes. -/
def GoesOn {α : Type} (cancelled cancelled' : Bool) (result : Session × α) : Prop :=
  cancelled' ≠ cancelled ∧ ¬ result.1.Shows

theorem goesOn_of_replace {α : Type} {cancelled cancelled' : Bool} {name : String} {sheet sheet' : Sheet}
    {history : History} {a : α} (found : s.sheet name = .ok sheet) (named : sheet'.name = name)
    (alone : ¬ (cancelled' = cancelled ∨ sheet'.Shows)) :
    GoesOn cancelled cancelled' (({ s.replace name sheet' with history } : Session), a) := by
  refine ⟨fun same => alone (.inl same), fun shows => alone (.inr (shows sheet' ?_))⟩
  exact (sheet_ok (sheet_replace_same found named)).1

section
variable {options : Options}

theorem InStep.writeCells (h : s.InStep s') (regular : s.Regular options) (regular' : s'.Regular options)
    (name description : String) (edits : List (Position × String)) (cancelled cancelled' : Bool) :
    Parallel (fun a b => a.1.InStep b.1) (GoesOn cancelled cancelled') (GoesOn cancelled' cancelled)
      (s.writeCells name description edits cancelled) (s'.writeCells name description edits cancelled') := by
  refine (h.sheet name).ofExcept.bind_parallel fun sheet sheet' found found' same => ?_
  have found := ofExcept_eq_ok.1 found
  have found' := ofExcept_eq_ok.1 found'
  refine (same.write edits).ofExcept.bind_parallel fun a b wrote wrote' written => ?_
  have wrote := ofExcept_eq_ok.1 wrote
  have wrote' := ofExcept_eq_ok.1 wrote'
  obtain ⟨written₁, _⟩ := a
  obtain ⟨written₂, roots⟩ := b
  obtain ⟨wired, rfl⟩ := written
  have runs := wired.parallel_recalcFrom (regular.holds.sheet found).toTruthful
    (regular'.holds.sheet found').toTruthful wrote wrote' cancelled cancelled'
  refine runs.map (fun a b _ _ recalculated => ?_) (fun a ran alone => ?_) (fun b ran alone => ?_)
  · have step := Sheet.recordCells_of_snapshot same.snapshot description (edits.map (·.1))
    refine ⟨h.options, (h.replace name recalculated).sheets, ?_⟩
    show s'.history.push (sheet'.recordCells _ _) = s.history.push (sheet.recordCells _ _)
    rw [step, h.history]
  · have frame := (Sheet.frame_write wrote).trans (Sheet.frame_recalcCells (ofOption_eq_ok.1 ran))
    exact goesOn_of_replace found (frame.2.trans (sheet_ok found).2) alone
  · have frame := (Sheet.frame_write wrote').trans (Sheet.frame_recalcCells (ofOption_eq_ok.1 ran))
    exact goesOn_of_replace found' (frame.2.trans (sheet_ok found').2) alone

theorem InStep.editLine (h : s.InStep s') (regular : s.Regular options) (regular' : s'.Regular options)
    (name : String) (edit : LineEdit) :
    Matched (fun a b => a.1.InStep b.1) (s.editLine name edit) (s'.editLine name edit) := by
  refine (h.sheet name).ofExcept.bind fun sheet sheet' found found' same => ?_
  refine (same.editLine edit).ofExcept.bind fun a b moved moved' edited => ?_
  have sound := (regular.holds.sheet (ofExcept_eq_ok.1 found)).toSound
  have sound' := (regular'.holds.sheet (ofExcept_eq_ok.1 found')).toSound
  refine (edited.matched_recalcAll (Sheet.editLine_ok sound (ofExcept_eq_ok.1 moved)).1
    (Sheet.editLine_ok sound' (ofExcept_eq_ok.1 moved')).1).bind fun _ _ _ _ recalculated => ?_
  refine ⟨h.options, (h.replace name recalculated).sheets, ?_⟩
  show s'.history.push (sheet'.recordMatrix _) = s.history.push (sheet.recordMatrix _)
  rw [Sheet.recordMatrix_of_snapshot same.snapshot, h.history]

theorem InStep.recalculate (h : s.InStep s') (regular : s.Regular options) (regular' : s'.Regular options)
    (name : String) (cancelled cancelled' : Bool) :
    Parallel (fun a b => a.1.InStep b.1) (GoesOn cancelled cancelled') (GoesOn cancelled' cancelled)
      (s.recalculate name cancelled) (s'.recalculate name cancelled') := by
  refine (h.sheet name).ofExcept.bind_parallel fun sheet sheet' found found' same => ?_
  have found := ofExcept_eq_ok.1 found
  have found' := ofExcept_eq_ok.1 found'
  have runs := same.parallel_recalcAll (regular.holds.sheet found).toSound
    (regular'.holds.sheet found').toSound cancelled cancelled'
  refine runs.map (fun _ _ _ _ recalculated => h.replace name recalculated) (fun a ran alone => ?_)
    (fun b ran alone => ?_)
  · have frame := Sheet.frame_recalcCells (ofOption_eq_ok.1 ran)
    exact goesOn_of_replace found (frame.2.trans (sheet_ok found).2) alone
  · have frame := Sheet.frame_recalcCells (ofOption_eq_ok.1 ran)
    exact goesOn_of_replace found' (frame.2.trans (sheet_ok found').2) alone

theorem InStep.load (h : s.InStep s') (snapshot : SessionSnapshot) :
    Matched InStep (s.load snapshot) (s'.load snapshot) := by
  unfold Session.load
  rw [h.options]
  refine Matched.bind (.of_eq (R := Eq) rfl fun _ => rfl) fun sheets _ _ _ same => ?_
  subst same
  exact ⟨rfl, List.forall₂_same.2 fun sheet _ => .refl sheet, congrArg History.clear h.history⟩

theorem InStep.revert (h : s.InStep s') (regular : s.Regular options) (regular' : s'.Regular options)
    (step : Step) :
    Matched (fun a b => a.1.InStep b.1 ∧ b.2 = a.2) (s.revert step) (s'.revert step) := by
  refine (h.sheet step.matrix).ofExcept.bind fun sheet sheet' found found' same => ?_
  refine (same.restore step).ofExcept.bind fun a b back back' restored => ?_
  have sound := (regular.holds.sheet (ofExcept_eq_ok.1 found)).toSound
  have sound' := (regular'.holds.sheet (ofExcept_eq_ok.1 found')).toSound
  refine (restored.matched_recalcAll (Sheet.restore_ok sound (ofExcept_eq_ok.1 back)).1
    (Sheet.restore_ok sound' (ofExcept_eq_ok.1 back')).1).bind fun _ _ _ _ recalculated => ?_
  exact ⟨h.replace step.matrix recalculated, same.inverseOf step⟩

theorem InStep.undo (h : s.InStep s') (regular : s.Regular options) (regular' : s'.Regular options) :
    Matched (fun a b => a.1.InStep b.1 ∧ b.2 = a.2) (Attempt.ofOption s.undo : Attempt GridError _)
      (Attempt.ofOption s'.undo) := by
  cases top : s.history.undos with
  | nil =>
      have top' : s'.history.undos = [] := by rw [h.history, top]
      rw [undo_nil top, undo_nil top']
      exact ⟨h, rfl⟩
  | cons step rest =>
      have top' : s'.history.undos = step :: rest := by rw [h.history, top]
      rw [undo_cons top, undo_cons top', h.history]
      have reverted := h.revert regular regular' step
      generalize s.revert step = x at reverted ⊢
      generalize s'.revert step = y at reverted ⊢
      cases x with
      | error halt =>
          cases y with
          | error halt' =>
              obtain rfl : halt' = halt := reverted
              cases halt' with
              | fault fault => exact ⟨h.with_history _, rfl⟩
              | crash => exact rfl
          | ok b => exact reverted.elim
      | ok a =>
          cases y with
          | error halt' => exact reverted.elim
          | ok b =>
              obtain ⟨same, inverse⟩ := reverted
              dsimp only
              rw [inverse]
              exact ⟨same.with_history _, rfl⟩

theorem InStep.turned (h : s.InStep s') : s.turned.InStep s'.turned :=
  ⟨h.options, h.sheets, congrArg History.turned h.history⟩

theorem InStep.redo (h : s.InStep s') (regular : s.Regular options) (regular' : s'.Regular options) :
    Matched (fun a b => a.1.InStep b.1 ∧ b.2 = a.2) (Attempt.ofOption s.redo : Attempt GridError _)
      (Attempt.ofOption s'.redo) := by
  rw [redo_eq, redo_eq, ← map_ofOption, ← map_ofOption]
  exact (h.turned.undo regular.turned regular'.turned).map fun _ _ _ _ same => ⟨same.1.turned, same.2⟩

/-! ## What readers are given -/

theorem position_view {sheet : Sheet} {p : Position} {view : CellView} (viewed : sheet.view p = some view) :
    view.position = p := by
  unfold Sheet.view at viewed
  split at viewed
  · cases viewed
    rfl
  · split at viewed
    · obtain ⟨_, _, rfl⟩ := Option.map_eq_some_iff.1 viewed
      rfl
    · cases viewed
      rfl

theorem InStep.setCell (h : s.InStep s') (regular : s.Regular options) (regular' : s'.Regular options)
    (name : String) (p : Position) (raw : String) (cancelled cancelled' : Bool) :
    Parallel (fun a b => a.1.InStep b.1 ∧ b.2.1.position = a.2.1.position ∧ b.2.1.shown = a.2.1.shown)
      (GoesOn cancelled cancelled') (GoesOn cancelled' cancelled)
      (s.setCell name p raw cancelled) (s'.setCell name p raw cancelled') := by
  have written := h.writeCells regular regular' name (describeEdit p raw) [(p, raw)] cancelled cancelled'
  refine written.bind (fun a b wrote wrote' same => ?_) (fun a wrote alone => ?_) fun b wrote alone => ?_
  · have kept := regular.edited (edited_writeCells regular.holds wrote)
    have kept' := regular'.edited (edited_writeCells regular'.holds wrote')
    refine (same.sheet name).ofExcept.bind_parallel fun sheet sheet' found found' alike => ?_
    have shown := alike.shown (kept.holds.sheet (ofExcept_eq_ok.1 found)).toTruthful
      (kept'.holds.sheet (ofExcept_eq_ok.1 found')).toTruthful p
    refine (matched_ofOption shown).bind_parallel fun view view' viewed viewed' seen => ⟨same, ?_, seen⟩
    rw [position_view (ofOption_eq_ok.1 viewed), position_view (ofOption_eq_ok.1 viewed')]
  · obtain ⟨sheet, found⟩ := found_writeCells wrote
    show Parallel _ _ _ (Attempt.ofExcept (a.1.sheet name) >>= _) _
    rw [found, ofExcept_ok_bind]
    cases sheet.view p with
    | none => exact rfl
    | some view => exact ⟨rfl, alone⟩
  · obtain ⟨sheet, found⟩ := found_writeCells wrote
    show Parallel _ _ _ _ (Attempt.ofExcept (b.1.sheet name) >>= _)
    rw [found, ofExcept_ok_bind]
    cases sheet.view p with
    | none => exact rfl
    | some view => exact ⟨rfl, alone⟩

theorem InStep.perform (h : s.InStep s') (regular : s.Regular options) (regular' : s'.Regular options)
    {op op' : Operation} (same : op'.uncancelled = op.uncancelled) :
    Parallel (fun a b => a.1.InStep b.1 ∧ a.2.Like b.2) (fun a => op' ≠ op ∧ ¬ a.1.Shows)
      (fun b => op ≠ op' ∧ ¬ b.1.Shows) (s.perform op) (s'.perform op') := by
  have setCell : ∀ name p raw cancelled cancelled',
      Parallel (fun a b => a.1.InStep b.1 ∧ a.2.Like b.2)
        (fun a => Operation.setCell name p raw cancelled' ≠ .setCell name p raw cancelled ∧ ¬ a.1.Shows)
        (fun b => Operation.setCell name p raw cancelled ≠ .setCell name p raw cancelled' ∧ ¬ b.1.Shows)
        (s.perform (.setCell name p raw cancelled)) (s'.perform (.setCell name p raw cancelled')) :=
    fun name p raw cancelled cancelled' =>
      (h.setCell regular regular' name p raw cancelled cancelled').map (fun _ _ _ _ same => same)
        (fun _ _ alone => ⟨fun same => alone.1 (by injection same), alone.2⟩)
        fun _ _ alone => ⟨fun same => alone.1 (by injection same), alone.2⟩
  have recalculate : ∀ name cancelled cancelled',
      Parallel (fun a b => a.1.InStep b.1 ∧ a.2.Like b.2)
        (fun a => Operation.recalculate name cancelled' ≠ .recalculate name cancelled ∧ ¬ a.1.Shows)
        (fun b => Operation.recalculate name cancelled ≠ .recalculate name cancelled' ∧ ¬ b.1.Shows)
        (s.perform (.recalculate name cancelled)) (s'.perform (.recalculate name cancelled')) :=
    fun name cancelled cancelled' =>
      (h.recalculate regular regular' name cancelled cancelled').map (fun _ _ _ _ same => ⟨same, trivial⟩)
        (fun _ _ alone => ⟨fun same => alone.1 (by injection same), alone.2⟩)
        fun _ _ alone => ⟨fun same => alone.1 (by injection same), alone.2⟩
  obtain rfl | ⟨name, p, raw, cancelled, cancelled', rfl, rfl⟩ | ⟨name, cancelled, cancelled', rfl, rfl⟩ :=
    Operation.of_uncancelled same
  · cases op' with
    | addMatrix name =>
        exact ((h.addMatrix name).ofExcept.map fun _ _ _ _ same => ⟨same, trivial⟩).parallel
    | removeMatrix name =>
        exact ((h.removeMatrix name).ofExcept.map fun _ _ _ _ same => ⟨same, trivial⟩).parallel
    | setCell name p raw cancelled => exact setCell name p raw cancelled cancelled
    | setCells name edits =>
        refine (h.writeCells regular regular' name _ edits false false).map
          (fun _ _ _ _ same => ⟨same, trivial⟩) ?_ ?_
        · exact fun _ _ alone => absurd rfl alone.1
        · exact fun _ _ alone => absurd rfl alone.1
    | editLine name edit =>
        exact ((h.editLine regular regular' name edit).map fun _ _ _ _ same => ⟨same, trivial⟩).parallel
    | recalculate name cancelled => exact recalculate name cancelled cancelled
    | load snapshot => exact ((h.load snapshot).map fun _ _ _ _ same => ⟨same, trivial⟩).parallel
    | undo => exact ((h.undo regular regular').map fun _ _ _ _ same => same).parallel
    | redo => exact ((h.redo regular regular').map fun _ _ _ _ same => same).parallel
  · exact setCell name p raw cancelled cancelled'
  · exact recalculate name cancelled cancelled'

theorem InStep.after (h : s.InStep s') (regular : s.Regular options) (regular' : s'.Regular options)
    {op op' : Operation} (same : op'.uncancelled = op.uncancelled) {t t' : Session}
    (done : s.after op = some t) (done' : s'.after op' = some t') : t.InStep t' := by
  have performed := h.perform regular regular' same
  unfold Session.after at done done'
  generalize s.perform op = x at performed done
  generalize s'.perform op' = y at performed done'
  cases x with
  | error halt =>
      cases y with
      | error halt' =>
          obtain rfl : halt' = halt := performed
          cases halt' with
          | fault fault =>
              cases done
              cases done'
              exact h
          | crash => cases done
      | ok b =>
          obtain ⟨rfl, _⟩ := performed
          cases done
  | ok a =>
      cases y with
      | error halt' =>
          obtain ⟨rfl, _⟩ := performed
          cases done'
      | ok b =>
          cases done
          cases done'
          exact performed.1

theorem InStep.after_isSome (h : s.InStep s') (regular : s.Regular options) (regular' : s'.Regular options)
    {op op' : Operation} (same : op'.uncancelled = op.uncancelled) {t : Session}
    (done : s.after op = some t) (shows : t.Shows) : ∃ t', s'.after op' = some t' := by
  have performed := h.perform regular regular' same
  unfold Session.after at done ⊢
  generalize s.perform op = x at performed done
  generalize s'.perform op' = y at performed ⊢
  cases y with
  | ok b => exact ⟨b.1, rfl⟩
  | error halt' =>
      cases halt' with
      | fault fault => exact ⟨s', rfl⟩
      | crash =>
          cases x with
          | ok a =>
              cases done
              exact absurd shows performed.2.2
          | error halt =>
              obtain rfl : .crash = halt := performed
              cases done

theorem InStep.run (h : s.InStep s') (regular : s.Regular options) (regular' : s'.Regular options)
    {ops ops' : List Operation} (same : ops'.map Operation.uncancelled = ops.map Operation.uncancelled)
    {t t' : Session} (ran : s.run ops = some t) (ran' : s'.run ops' = some t') : t.InStep t' := by
  induction ops generalizing s s' ops' with
  | nil =>
      rw [List.map_nil, List.map_eq_nil_iff] at same
      rw [same] at ran'
      cases ran
      cases ran'
      exact h
  | cons op ops ih =>
      cases ops' with
      | nil => cases same
      | cons op' ops' =>
          obtain ⟨first, rest⟩ := List.cons.inj same
          obtain ⟨u, done, ran⟩ := Option.bind_eq_some_iff.1 ran
          obtain ⟨u', done', ran'⟩ := Option.bind_eq_some_iff.1 ran'
          exact ih (h.after regular regular' first done done') (regular.after done) (regular'.after done')
            rest ran ran'

end

end

/-! ## The property -/

def runFor (options : Options) (ops : List Operation) (k : Nat) : Option Session :=
  (create options).run (ops.take k)

theorem inStep_runFor {options : Options} {ops ops' : List Operation} {k : Nat} {s s' : Session}
    (same : ops'.map Operation.uncancelled = ops.map Operation.uncancelled)
    (ran : runFor options ops k = some s) (ran' : runFor options ops' k = some s') : s.InStep s' := by
  have start : (create options).InStep (create options) := ⟨rfl, .nil, rfl⟩
  have fresh : (create options).Regular options := Reachable.create.regular
  refine start.run fresh fresh ?_ ran ran'
  rw [List.map_take, List.map_take, same]

theorem uncancelled_at {ops ops' : List Operation} {k : Nat} {op op' : Operation}
    (same : ops'.map Operation.uncancelled = ops.map Operation.uncancelled)
    (next : ops[k]? = some op) (next' : ops'[k]? = some op') : op'.uncancelled = op.uncancelled := by
  have at_ := congrArg (·[k]?) same
  simpa [next, next'] using at_

theorem runFor_isSome {options : Options} {ops ops' : List Operation}
    (same : ops'.map Operation.uncancelled = ops.map Operation.uncancelled)
    (shown : ∀ k, ∃ s, runFor options ops k = some s ∧ s.Shows) (k : Nat) :
    ∃ s', runFor options ops' k = some s' := by
  induction k with
  | zero => exact ⟨create options, rfl⟩
  | succ k ih =>
      obtain ⟨s', ran'⟩ := ih
      obtain ⟨s, ran, _⟩ := shown k
      obtain ⟨t, ran₁, shows⟩ := shown (k + 1)
      have length : ops'.length = ops.length := by
        have lengths := congrArg List.length same
        simpa using lengths
      by_cases more : k < ops.length
      · have more' : k < ops'.length := by rwa [length]
        unfold runFor at ran₁ ⊢
        rw [run_take_succ _ more, show (create options).run (ops.take k) = some s from ran] at ran₁
        rw [run_take_succ _ more', show (create options).run (ops'.take k) = some s' from ran']
        exact (inStep_runFor same ran ran').after_isSome (Reachable.create.run ran).regular
          (Reachable.create.run ran').regular
          (uncancelled_at same (List.getElem?_eq_getElem more) (List.getElem?_eq_getElem more')) ran₁ shows
      · refine ⟨s', ?_⟩
        unfold runFor at ran' ⊢
        rw [List.take_of_length_le (by omega)] at ran' ⊢
        exact ran'

def copied (cancelled : Bool) : List Operation :=
  [.addMatrix "S", .setCell "S" ⟨0, 0⟩ "old" false, .setCell "S" ⟨0, 1⟩ "=A1" cancelled,
    .setCell "S" ⟨0, 0⟩ "new" cancelled, .recalculate "S" cancelled]

theorem run_copied : ∃ s s', runFor {} (copied false) 5 = some s ∧ runFor {} (copied true) 5 = some s' ∧
    s.sheets.map (·.matrix.dirtyCells) = [[]] ∧ s'.sheets.map (·.matrix.dirtyCells) = [[⟨0, 1⟩]] := by
  have ran : (runFor {} (copied false) 5).map (fun s => s.sheets.map (·.matrix.dirtyCells)) = some [[]] := by
    cbv
  have ran' : (runFor {} (copied true) 5).map (fun s => s.sheets.map (·.matrix.dirtyCells)) =
      some [[⟨0, 1⟩]] := by cbv
  obtain ⟨s, ran, clean⟩ := Option.map_eq_some_iff.1 ran
  obtain ⟨s', ran', stale⟩ := Option.map_eq_some_iff.1 ran'
  exact ⟨s, s', ran, ran', clean, stale⟩

def looked (cancelled : Bool) : List Operation :=
  [.addMatrix "S", .setCells "S" [(⟨0, 0⟩, "x"), (⟨0, 1⟩, "=VLOOKUP(\"k\",\"k\",SUM(A1,-A1))")],
    totalled cancelled]

end Session

end Spreadsheet
