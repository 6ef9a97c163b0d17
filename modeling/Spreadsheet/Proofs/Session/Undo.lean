import Spreadsheet.Proofs.Session.Crash

/-!
# Undo and redo are exact

A step of the history leads from one snapshot of a session to another that differs in one sheet, and
taking it back leaves the step that leads the other way. So the two stacks are trails of snapshots from
the present one, and undo and redo walk along them, whatever sheets were edited in whatever order. A
step crashes if the sheet that it brings back does.
-/

namespace Spreadsheet

/-! ## Windows of a list -/

section
variable {α : Type} {xs : List α} {x : α}

theorem take_cons_take (x : α) (xs : List α) (n : Nat) :
    (x :: xs.take n).take n = (x :: xs).take n := by
  cases n with
  | zero => rfl
  | succ n => rw [List.take_succ_cons, List.take_succ_cons, List.take_take, min_eq_left (Nat.le_succ n)]

theorem reverse_take_succ {i : Nat} (at_ : xs[i]? = some x) :
    (xs.take (i + 1)).reverse = x :: (xs.take i).reverse := by
  rw [List.take_add_one, at_, List.reverse_append]
  rfl

theorem drop_eq_cons {i : Nat} (at_ : xs[i]? = some x) :
    xs.drop i = x :: xs.drop (i + 1) := by
  rw [List.drop_eq_getElem?_toList_append, at_]
  rfl

end

/-! ## Snapshots that differ in one matrix -/

namespace SessionSnapshot

def replace (s : SessionSnapshot) (m : MatrixSnapshot) : SessionSnapshot :=
  ⟨s.matrices.map fun old => if old.name == m.name then m else old⟩

def names (s : SessionSnapshot) : List String := s.matrices.map MatrixSnapshot.name

theorem replace_self {s : SessionSnapshot} (nodup : s.names.Nodup) {m : MatrixSnapshot}
    (stored : s.find? m.name = some m) : s.replace m = s := by
  have mem : m ∈ s.matrices := List.mem_of_find?_eq_some stored
  refine congrArg mk ((List.map_congr_left fun old among => ?_).trans (List.map_id _))
  split
  · rename_i same
    exact List.inj_on_of_nodup_map nodup mem among (eq_of_beq same).symm
  · rfl

theorem replace_replace (s : SessionSnapshot) {m m' : MatrixSnapshot} (name : m'.name = m.name) :
    (s.replace m').replace m = s.replace m := by
  refine congrArg mk ((List.map_map).trans (List.map_congr_left fun old _ => ?_))
  dsimp only [Function.comp]
  rw [name]
  split
  · rw [name, if_pos (beq_self_eq_true _)]
  · rfl

end SessionSnapshot

namespace Session

theorem snapshot_replace (s : Session) (sheet : Sheet) :
    (s.replace sheet.name sheet).snapshot = s.snapshot.replace sheet.snapshot := by
  unfold snapshot replace SessionSnapshot.replace
  dsimp only
  rw [List.map_map, List.map_map]
  refine congrArg SessionSnapshot.mk (List.map_congr_left fun old _ => ?_)
  exact apply_ite Sheet.snapshot _ _ _

theorem names_snapshot (s : Session) : s.snapshot.names = s.names := List.map_map

theorem find_snapshot_of_sheet {s : Session} {name : String} {sheet : Sheet}
    (found : s.sheet name = .ok sheet) : s.snapshot.find? name = some sheet.snapshot := by
  rw [find_snapshot, found]
  rfl

theorem Regular.replace_snapshot {options : Options} {s : Session} (h : s.Regular options)
    {name : String} {sheet : Sheet} (found : s.sheet name = .ok sheet) :
    s.snapshot.replace sheet.snapshot = s.snapshot := by
  have nodup : s.snapshot.names.Nodup := by
    rw [names_snapshot]
    exact h.names
  have stored := find_snapshot_of_sheet found
  rw [← (sheet_ok found).2] at stored
  exact SessionSnapshot.replace_self nodup stored

theorem sheet_of_find_snapshot {s : Session} {name : String} {m : MatrixSnapshot}
    (stored : s.snapshot.find? name = some m) :
    ∃ sheet, s.sheet name = .ok sheet ∧ sheet.snapshot = m := by
  rw [find_snapshot] at stored
  cases found : s.sheet name with
  | error fault =>
      rw [found] at stored
      cases stored
  | ok sheet =>
      rw [found] at stored
      exact ⟨sheet, rfl, Option.some.inj stored⟩

/-! ## Steps between snapshots -/

/-- The step leads from the snapshot `now` back to `before`: they differ in one sheet, which is `t` now
and was `s`, and the step recalls `s` from `t`. -/
structure Bridge (limits : Limits) (s t : Sheet) (before now : SessionSnapshot) (step : Step) : Prop where
  regular : s.Regular limits
  regular' : t.Regular limits
  name : s.name = t.name
  recalls : s.Recalls t step
  stored : before.find? s.name = some s.snapshot
  stored' : now.find? t.name = some t.snapshot
  before_eq : now.replace s.snapshot = before
  now_eq : before.replace t.snapshot = now

theorem Bridge.restored {options : Options} {c : Session} (h : c.Regular options) {s t : Sheet}
    {before : SessionSnapshot} {step : Step}
    (bridge : Bridge options.limits s t before c.snapshot step) :
    ∃ sheet restored, c.sheet step.matrix = .ok sheet ∧ sheet.restore step = .ok restored ∧
      restored.snapshot = s.snapshot ∧ t.Recalls s (sheet.inverseOf step) := by
  obtain ⟨sheet, found, same⟩ := sheet_of_find_snapshot bridge.stored'
  obtain ⟨⟨restored, ok, back⟩, recalls⟩ := bridge.recalls.restore bridge.regular bridge.regular'
    (h.holds.sheet found) bridge.name same
  rw [← bridge.name, ← bridge.recalls.matrix_eq] at found
  exact ⟨sheet, restored, found, ok, back, recalls⟩

theorem Bridge.revert {options : Options} {c : Session} (h : c.Regular options) {s t : Sheet}
    {before : SessionSnapshot} {step : Step}
    (bridge : Bridge options.limits s t before c.snapshot step) :
    (¬ s.Shows ∧ c.revert step = .error .crash) ∨
    (s.Shows ∧ ∃ c' inverse, c.revert step = .ok (c', inverse) ∧ c'.snapshot = before ∧
      Bridge options.limits t s c.snapshot before inverse) := by
  obtain ⟨sheet, restored, found, ok, back, recalls⟩ := bridge.restored h
  have regular := h.holds.sheet found
  obtain ⟨sound, frame, pending⟩ := Sheet.restore_ok regular.toSound ok
  have truthful := sound.truthful pending
  have shows : restored.Shows ↔ s.Shows := bridge.regular.toTruthful.shows_of_snapshot truthful
    ((frame.1.trans regular.limits_eq).trans bridge.regular.limits_eq.symm) back
  rw [← shows, ← truthful.recalcAll_isSome_iff, revert_of_restored found ok]
  cases ran : restored.recalcAll false with
  | none => exact .inl ⟨Bool.false_ne_true, rfl⟩
  | some result =>
      have fresh : result.1.snapshot = s.snapshot := (sound.snapshot_recalcAll ran).trans back
      have name : result.1.name = s.name := congrArg MatrixSnapshot.name fresh
      refine .inr ⟨rfl, _, _, rfl, ?_, ⟨bridge.regular', bridge.regular, bridge.name.symm, recalls,
        bridge.stored', bridge.stored, bridge.now_eq, bridge.before_eq⟩⟩
      rw [bridge.recalls.matrix_eq, ← name, snapshot_replace, fresh, bridge.before_eq]

theorem Bridge.shows {options : Options} {c : Session} (h : c.Regular options) {s t : Sheet}
    {now : SessionSnapshot} {step : Step} (bridge : Bridge options.limits s t c.snapshot now step)
    (shows : c.Shows) : s.Shows := by
  obtain ⟨sheet, found, same⟩ := sheet_of_find_snapshot bridge.stored
  exact ((h.holds.sheet found).shows_iff bridge.regular same.symm).2 (shows sheet (sheet_ok found).1)

theorem Edited.bridge {options : Options} {s s' : Session} (h : s.Regular options)
    (edited : s.Edited options.limits s') : ∃ sheet sheet' step,
      s'.history = s.history.push step ∧
      Bridge options.limits sheet sheet' s.snapshot s'.snapshot step := by
  obtain ⟨sheet, sheet', step, found, regular', name, recalls, rfl⟩ := edited
  have stored := find_snapshot_of_sheet found
  have now : (s.replace sheet.name sheet').snapshot = s.snapshot.replace sheet'.snapshot := by
    rw [← name, snapshot_replace]
  have found' : (s.replace sheet.name sheet').sheet sheet'.name = .ok sheet' := by
    rw [name, sheet_replace s name, found]
    simp [Except.map]
  refine ⟨sheet, sheet', step, rfl, h.holds.sheet found, regular', name.symm, recalls, stored,
    find_snapshot_of_sheet found', ?_, now.symm⟩
  show (s.replace sheet.name sheet').snapshot.replace sheet.snapshot = s.snapshot
  rw [now, SessionSnapshot.replace_replace _ name]
  exact h.replace_snapshot found

def Leads (limits : Limits) (now before : SessionSnapshot) (step : Step) : Prop :=
  ∃ s t, Bridge limits s t before now step

inductive Trail (limits : Limits) : SessionSnapshot → List SessionSnapshot → List Step → Prop
  | here (now : SessionSnapshot) (steps : List Step) : Trail limits now [] steps
  | step {now before : SessionSnapshot} {earlier : List SessionSnapshot} {step : Step}
      {steps : List Step} : Leads limits now before step → Trail limits before earlier steps →
      Trail limits now (before :: earlier) (step :: steps)

theorem Trail.take {limits : Limits} {now : SessionSnapshot} {back : List SessionSnapshot}
    {steps : List Step} (trail : Trail limits now back steps) (n : Nat) :
    Trail limits now (back.take n) (steps.take n) := by
  induction trail generalizing n with
  | here =>
      rw [List.take_nil]
      exact .here _ _
  | step leads _ ih =>
      cases n with
      | zero => exact .here _ _
      | succ n => exact .step leads (ih n)

/-! ## Sessions on a trail -/

structure Between (options : Options) (back ahead : List SessionSnapshot) (s : Session) : Prop where
  regular : s.Regular options
  undos : Trail options.limits s.snapshot back s.history.undos
  redos : Trail options.limits s.snapshot ahead s.history.redos
  few : back.length + ahead.length ≤ options.undoLimit

section
variable {options : Options} {back ahead : List SessionSnapshot} {s s' : Session}

theorem Between.turned (h : Between options back ahead s) : Between options ahead back s.turned :=
  ⟨h.regular.turned, h.redos, h.undos, by rw [Nat.add_comm]; exact h.few⟩

theorem Between.undo {before : SessionSnapshot} (h : Between options (before :: back) ahead s) :
    (s.undo = none ∧ ∀ x : Session, x.Regular options → x.snapshot = before → ¬ x.Shows) ∨
    ∃ s', s.undo = some (s', true) ∧ s'.snapshot = before ∧
      Between options back (s.snapshot :: ahead) s' := by
  obtain ⟨regular, undos, redos, few⟩ := h
  generalize top : s.history.undos = steps at undos
  cases undos with
  | @step _ _ _ step rest leads trail =>
      obtain ⟨x, y, bridge⟩ := leads
      rcases bridge.revert regular with ⟨hides, crashes⟩ | ⟨_, s', inverse, reverted, same, inverted⟩
      · refine .inl ⟨by rw [undo_cons top, crashes], fun c regular' there shows => hides ?_⟩
        rw [← there] at bridge
        exact bridge.shows regular' shows
      · have undone := undo_of_revert top reverted
        have few' : back.length + (s.snapshot :: ahead).length ≤ options.undoLimit := by
          rw [List.length_cons] at few ⊢
          omega
        refine .inr ⟨_, undone, same, regular.undo undone, ?_, ?_, few'⟩
        · show Trail options.limits s'.snapshot back rest
          rwa [same]
        · show Trail options.limits s'.snapshot (s.snapshot :: ahead)
            ((inverse :: s.history.redos).take s.history.max)
          -- The bound cuts off none of the known steps.
          have fits : (s.snapshot :: ahead).take s.history.max = s.snapshot :: ahead := by
            rw [regular.history.max_eq]
            exact List.take_of_length_le (Nat.le_of_add_left_le few')
          rw [same, ← fits]
          exact Trail.take (.step ⟨y, x, inverted⟩ redos) s.history.max

theorem Between.redo {next : SessionSnapshot} (h : Between options back (next :: ahead) s) :
    (s.redo = none ∧ ∀ x : Session, x.Regular options → x.snapshot = next → ¬ x.Shows) ∨
    ∃ s', s.redo = some (s', true) ∧ s'.snapshot = next ∧
      Between options (s.snapshot :: back) ahead s' := by
  rw [redo_eq]
  rcases h.turned.undo with ⟨crashes, hides⟩ | ⟨t, undone, same, between⟩
  · rw [crashes]
    exact .inl ⟨rfl, hides⟩
  · rw [undone]
    exact .inr ⟨t.turned, rfl, same, between.turned⟩

theorem Between.edited (h : Between options back ahead s) (edited : s.Edited options.limits s') :
    Between options ((s.snapshot :: back).take options.undoLimit) [] s' := by
  have regular := h.regular.edited edited
  obtain ⟨sheet, sheet', step, history, bridge⟩ := edited.bridge h.regular
  refine ⟨regular, ?_, .here _ _, List.length_take_le _ _⟩
  rw [history, ← h.regular.history.max_eq]
  exact Trail.take (.step ⟨sheet, sheet', bridge⟩ h.undos) s.history.max

theorem after_of_ok {op : Operation} {reply : Reply} (ok : s.perform op = .ok (s', reply)) :
    s.after op = some s' := by
  rw [Session.after, ok]

theorem snapshot_recalculate (h : s.Regular options) {name : String} {cancelled : Bool}
    (done : s.after (.recalculate name cancelled) = some s') :
    s'.snapshot = s.snapshot ∧ s'.history = s.history := by
  rcases after_eq_some done with ⟨reply, ok⟩ | rfl
  · obtain ⟨⟨_, stats⟩, recalculated, same⟩ := map_eq_ok.1 ok
    cases same
    obtain ⟨sheet, sheet', found, ran, rfl⟩ := recalculate_ok recalculated
    have snapshot := (h.holds.sheet found).toSound.snapshot_recalcAll ran
    have named : sheet'.name = name := (congrArg MatrixSnapshot.name snapshot).trans (sheet_ok found).2
    refine ⟨?_, rfl⟩
    rw [← named, snapshot_replace, snapshot]
    exact h.replace_snapshot found
  · exact ⟨rfl, rfl⟩

theorem Between.recalculated (h : Between options back ahead s) {name : String} {cancelled : Bool}
    (done : s.after (.recalculate name cancelled) = some s') : Between options back ahead s' := by
  obtain ⟨snapshot, history⟩ := snapshot_recalculate h.regular done
  refine ⟨h.regular.after done, ?_, ?_, h.few⟩
  · rw [snapshot, history]
    exact h.undos
  · rw [snapshot, history]
    exact h.redos

theorem Regular.shows_revert (h : s.Regular options) (shows : s.Shows) {step inverse : Step}
    (ok : s.revert step = .ok (s', inverse)) : s'.Shows := by
  obtain ⟨sheet, restored, sheet', stats, found, back, ran, rfl, _⟩ := revert_ok ok
  intro x mem
  rcases mem_replace mem with rfl | old
  · exact (Sheet.restore_ok (h.holds.sheet found).toSound back).1.shows_of_recalcAll ran
  · exact shows x old

theorem Regular.shows_undo (h : s.Regular options) (shows : s.Shows) {applied : Bool}
    (undone : s.undo = some (s', applied)) : s'.Shows := by
  cases undos : s.history.undos with
  | nil =>
      rw [undo_nil undos] at undone
      cases undone
      exact shows
  | cons step rest =>
      rw [undo_cons undos] at undone
      split at undone
      · rename_i reverted
        have back := h.shows_revert shows reverted
        cases undone
        exact back
      · cases undone
        exact shows
      · cases undone

theorem Regular.shows_redo (h : s.Regular options) (shows : s.Shows) {applied : Bool}
    (redone : s.redo = some (s', applied)) : s'.Shows := by
  rw [redo_eq] at redone
  obtain ⟨⟨t, b⟩, undone, same⟩ := Option.map_eq_some_iff.1 redone
  have back : t.Shows := h.turned.shows_undo shows undone
  cases same
  exact back

theorem Edited.not_redone (h : s.Regular options) (edited : s.Edited options.limits s')
    (room : 0 < options.undoLimit) (shows : s.Shows) (hides : ¬ s'.Shows) :
    ∃ t, s'.undo = some (t, true) ∧ t.redo = none := by
  have start : Between options [] [] s := ⟨h, .here _ _, .here _ _, Nat.zero_le _⟩
  have between := start.edited edited
  rw [List.take_of_length_le (by rwa [List.length_singleton])] at between
  obtain ⟨t, undone, same, between'⟩ := between.undo.resolve_left fun no => no.2 s h rfl shows
  refine ⟨t, undone, ?_⟩
  rcases between'.redo with ⟨crashes, _⟩ | ⟨u, redone, same', between''⟩
  · exact crashes
  · have shows' := between'.regular.shows_redo (h.shows_of_snapshot between'.regular same shows) redone
    exact absurd (between''.regular.shows_of_snapshot between.regular same'.symm shows') hides

end

/-! ## Runs of edits -/

/-- Edits lead from one session to another, with recalculations in between. The sessions in which the
edits were made are listed, the latest first. -/
inductive Edits (s : Session) : List Session → Session → Prop
  | start : Edits s [] s
  | edit {past : List Session} {s' s'' : Session} {op : Operation} {reply : Reply} :
      Edits s past s' → op.IsEdit → s'.perform op = .ok (s'', reply) → Edits s (s' :: past) s''
  | recalculate {past : List Session} {s' s'' : Session} {name : String} {cancelled : Bool} :
      Edits s past s' → s'.after (.recalculate name cancelled) = some s'' → Edits s past s''

section
variable {options : Options} {s s' : Session} {past : List Session}

theorem Edits.after (edits : Edits s past s') {op : Operation} (edit : op.IsEdit)
    (ok : (s'.perform op).isOk = true) : Edits s (s' :: past) (s'.next op) := by
  unfold Session.next
  cases performed : s'.perform op with
  | error halt =>
      rw [performed] at ok
      cases ok
  | ok result =>
      rw [after_of_ok performed]
      exact .edit edits edit performed

theorem Edits.next_recalculate (edits : Edits s past s') (name : String) (cancelled : Bool) :
    Edits s past (s'.next (.recalculate name cancelled)) := by
  unfold Session.next
  cases done : s'.after (.recalculate name cancelled) with
  | none => exact edits
  | some t => exact edits.recalculate done

theorem Edits.reachable (edits : Edits s past s') (h : Reachable options s) :
    ∀ x ∈ s' :: past, Reachable options x := by
  induction edits with
  | start =>
      intro x mem
      rw [List.mem_singleton.1 mem]
      exact h
  | @edit past s' s'' op _ _ _ ok ih =>
      exact List.forall_mem_cons.2 ⟨(ih s' List.mem_cons_self).after op (after_of_ok ok), ih⟩
  | recalculate _ done ih =>
      rw [List.forall_mem_cons] at ih
      exact List.forall_mem_cons.2 ⟨ih.1.after _ done, ih.2⟩

theorem Edits.between (edits : Edits s past s') (h : Reachable options s) :
    Between options ((past.map snapshot).take options.undoLimit) [] s' := by
  induction edits with
  | start =>
      rw [List.map_nil, List.take_nil]
      exact ⟨h.regular, .here _ _, .here _ _, Nat.zero_le _⟩
  | @edit past s' s'' op _ _ edit ok ih =>
      have next := ih.edited (edited_perform ih.regular.holds edit ok)
      rwa [take_cons_take] at next
  | recalculate _ done ih => exact ih.recalculated done

end

def undone (s : Session) : Nat → Option Session
  | 0 => some s
  | n + 1 => (s.undone n).bind fun t => t.undo.map Prod.fst

def redone (s : Session) : Nat → Option Session
  | 0 => some s
  | n + 1 => (s.redone n).bind fun t => t.redo.map Prod.fst

structure At (options : Options) (points : List SessionSnapshot) (i : Nat) (s : Session) : Prop where
  here : points[i]? = some s.snapshot
  between : Between options (points.drop (i + 1)) (points.take i).reverse s

def Shown (options : Options) (now : SessionSnapshot) : Prop :=
  ∃ x : Session, x.Regular options ∧ x.snapshot = now ∧ x.Shows

section
variable {options : Options} {points : List SessionSnapshot} {i : Nat} {s t : Session} {applied : Bool}

theorem At.undo (h : At options points i s) (room : i + 1 < points.length) :
    (s.undo = none ∧ ¬ Shown options points[i + 1]) ∨
      ∃ t, s.undo = some (t, true) ∧ At options points (i + 1) t := by
  obtain ⟨here, between⟩ := h
  have next := List.getElem?_eq_getElem room
  rw [drop_eq_cons next] at between
  rcases between.undo with ⟨crashes, hides⟩ | ⟨t, undone, same, between'⟩
  · exact .inl ⟨crashes, fun ⟨x, regular, there, shows⟩ => hides x regular there shows⟩
  · refine .inr ⟨t, undone, by rw [next, same], ?_⟩
    rw [reverse_take_succ here]
    exact between'

theorem At.length (h : At options points i s) : i < points.length := (List.getElem?_eq_some_iff.1 h.here).1

theorem At.redo (h : At options points (i + 1) s) :
    (s.redo = none ∧ ¬ Shown options (points.get ⟨i, Nat.lt_of_succ_lt h.length⟩)) ∨
      ∃ t, s.redo = some (t, true) ∧ At options points i t := by
  have before := Nat.lt_of_succ_lt h.length
  obtain ⟨here, between⟩ := h
  have previous := List.getElem?_eq_getElem before
  rw [reverse_take_succ previous] at between
  rcases between.redo with ⟨crashes, hides⟩ | ⟨t, redone, same, between'⟩
  · exact .inl ⟨crashes, fun ⟨x, regular, there, shows⟩ => hides x regular there shows⟩
  · refine .inr ⟨t, redone, by rw [previous, same], ?_⟩
    rw [drop_eq_cons here]
    exact between'

theorem At.undo_applied (h : At options points i s) (room : i + 1 < points.length)
    (undone : s.undo = some (t, applied)) : applied = true ∧ At options points (i + 1) t := by
  rcases h.undo room with ⟨crashes, _⟩ | ⟨t', undone', at_⟩
  · rw [crashes] at undone
    cases undone
  · rw [undone'] at undone
    cases undone
    exact ⟨rfl, at_⟩

theorem At.redo_applied (h : At options points (i + 1) s) (redone : s.redo = some (t, applied)) :
    applied = true ∧ At options points i t := by
  rcases h.redo with ⟨crashes, _⟩ | ⟨t', redone', at_⟩
  · rw [crashes] at redone
    cases redone
  · rw [redone'] at redone
    cases redone
    exact ⟨rfl, at_⟩

theorem At.undone (h : At options points i s) {k : Nat} (room : i + k < points.length)
    (undone : s.undone k = some t) : At options points (i + k) t := by
  induction k generalizing t with
  | zero =>
      cases undone
      exact h
  | succ k ih =>
      obtain ⟨u, earlier, last⟩ := Option.bind_eq_some_iff.1 undone
      obtain ⟨⟨_, applied⟩, answered, rfl⟩ := Option.map_eq_some_iff.1 last
      exact ((ih (by omega) earlier).undo_applied room answered).2

theorem At.redone {k : Nat} (h : At options points (i + k) s) (redone : s.redone k = some t) :
    At options points i t := by
  induction k generalizing i t with
  | zero =>
      cases redone
      exact h
  | succ k ih =>
      obtain ⟨u, earlier, last⟩ := Option.bind_eq_some_iff.1 redone
      obtain ⟨⟨_, applied⟩, answered, rfl⟩ := Option.map_eq_some_iff.1 last
      have before : At options points (i + 1) u := ih (by rwa [Nat.add_assoc, Nat.add_comm 1]) earlier
      exact (before.redo_applied answered).2

theorem At.exists_undone (h : At options points i s) {k : Nat} (room : i + k < points.length)
    (shown : ∀ j ≤ i + k, ∀ now, points[j]? = some now → Shown options now) :
    ∃ t, s.undone k = some t := by
  induction k with
  | zero => exact ⟨s, rfl⟩
  | succ k ih =>
      obtain ⟨u, earlier⟩ := ih (by omega) fun j le => shown j (by omega)
      have next : i + k + 1 < points.length := room
      obtain ⟨t, undone, _⟩ := ((h.undone (by omega) earlier).undo next).resolve_left fun no =>
        no.2 (shown _ (by omega) _ (List.getElem?_eq_getElem next))
      exact ⟨t, Option.bind_eq_some_iff.2 ⟨u, earlier, by rw [undone]; rfl⟩⟩

theorem At.exists_redone {k : Nat} (h : At options points (i + k) s)
    (shown : ∀ j ≤ i + k, ∀ now, points[j]? = some now → Shown options now) :
    ∃ t, s.redone k = some t := by
  induction k generalizing i with
  | zero => exact ⟨s, rfl⟩
  | succ k ih =>
      have further : At options points (i + 1 + k) s := by rwa [Nat.add_assoc, Nat.add_comm 1]
      obtain ⟨u, earlier⟩ := ih further fun j le => shown j (by omega)
      have at_ := further.redone earlier
      obtain ⟨t, redone, _⟩ := at_.redo.resolve_left fun no =>
        no.2 (shown i (by omega) _ (List.getElem?_eq_getElem (Nat.lt_of_succ_lt at_.length)))
      exact ⟨t, Option.bind_eq_some_iff.2 ⟨u, earlier, by rw [redone]; rfl⟩⟩

end

/-! ## The property -/

section
variable {options : Options} {s s' : Session} {past : List Session}

theorem Edits.at_start (edits : Edits s past s') (h : Reachable options s) :
    At options (((s' :: past).map snapshot).take (options.undoLimit + 1)) 0 s' :=
  ⟨rfl, edits.between h⟩

theorem Edits.exists_at (edits : Edits s past s') (h : Reachable options s) {n i : Nat} {now : SessionSnapshot}
    (point : (((s' :: past).map snapshot).take n)[i]? = some now) :
    ∃ x, (s' :: past)[i]? = some x ∧ x.Regular options ∧ x.snapshot = now := by
  rw [List.getElem?_take] at point
  split at point
  · rw [List.getElem?_map] at point
    obtain ⟨x, listed, same⟩ := Option.map_eq_some_iff.1 point
    exact ⟨x, listed, (edits.reachable h x (List.mem_of_getElem? listed)).regular, same⟩
  · cases point

theorem Edits.alike_at (edits : Edits s past s') (h : Reachable options s) {n i : Nat} {t : Session}
    (at_ : At options (((s' :: past).map snapshot).take n) i t) :
    ∃ x, (s' :: past)[i]? = some x ∧ x.Alike t := by
  obtain ⟨x, listed, regular, same⟩ := edits.exists_at h at_.here
  exact ⟨x, listed, regular.alike at_.between.regular same.symm⟩

theorem undos_undone {s t : Session} {n : Nat} (undone : s.undone n = some t) :
    t.history.undos = s.history.undos.drop n := by
  induction n generalizing t with
  | zero =>
      cases undone
      rfl
  | succ n ih =>
      obtain ⟨u, earlier, last⟩ := Option.bind_eq_some_iff.1 undone
      obtain ⟨⟨_, applied⟩, answered, rfl⟩ := Option.map_eq_some_iff.1 last
      rw [undos_undo answered, ih earlier, List.tail_drop]

end

theorem nanIndex_edited : lookedUp.Edited ({} : Options).limits nanIndex := by
  obtain ⟨reply, ok⟩ := lookedUp_totalled
  exact edited_perform reachable_lookedUp.regular.holds (show (totalled true).IsEdit from trivial) ok

def twoSheets : Session := reached { undoLimit := 2 } [.addMatrix "S", .addMatrix "T"]

def noted : Session := twoSheets.next (.setCell "T" ⟨0, 0⟩ "net" false)

def cycleEntered : Session :=
  noted.next (.setCells "S" [(⟨0, 0⟩, "=C1"), (⟨0, 1⟩, "=A1"), (⟨0, 0⟩, "=B1")])

def cycleMoved : Session :=
  (cycleEntered.next (.recalculate "S" true)).next (.editLine "S" (.insert .column 0))

end Session

end Spreadsheet
