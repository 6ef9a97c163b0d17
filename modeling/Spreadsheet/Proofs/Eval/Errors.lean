import Spreadsheet.Proofs.Eval.Tables

namespace Spreadsheet

/-! ## Refusals -/

def Refused {α : Type} (a : Answer α) : Prop := ∃ code, a = .error code

section
variable {α β : Type} {a : Answer α}

theorem Refused.bind (h : Refused a) (f : α → Answer β) : Refused (a >>= f) := by
  obtain ⟨code, rfl⟩ := h
  exact ⟨code, rfl⟩

theorem Refused.next {f : α → Answer β} (h : ∀ x, Refused (f x)) : Refused (a >>= f) := by
  cases a with
  | error code => exact ⟨code, rfl⟩
  | ok x => exact h x

theorem Refused.map (h : Refused a) (f : α → β) : Refused (a.map f) := by
  obtain ⟨code, rfl⟩ := h
  exact ⟨code, rfl⟩

end

namespace FormulaValue

def CarriesError (v : FormulaValue) : Prop := ∃ c ∈ v.scalars, c.isError = true

def IsError (v : FormulaValue) : Prop := ∃ code, v = .error code

def NoScalar (v : FormulaValue) : Prop := Refused v.toScalar

variable {v : FormulaValue}

theorem carriesError_scalar {c : CellValue} : CarriesError (.scalar c) ↔ ∃ code, c = .error code := by
  constructor
  · rintro ⟨c', mem, isError⟩
    obtain rfl : c' = c := List.mem_singleton.1 mem
    cases c' with
    | error code => exact ⟨code, rfl⟩
    | empty | number | text | boolean => cases isError
  · rintro ⟨code, rfl⟩
    exact ⟨.error code, List.mem_singleton_self _, rfl⟩

theorem IsError.carriesError (h : v.IsError) : v.CarriesError := by
  obtain ⟨code, rfl⟩ := h
  exact carriesError_scalar.2 ⟨code, rfl⟩

theorem CarriesError.noScalar (h : v.CarriesError) : v.NoScalar := by
  cases v with
  | table rows => exact ⟨.wrongType, rfl⟩
  | scalar c =>
      obtain ⟨code, rfl⟩ := carriesError_scalar.1 h
      exact ⟨code, rfl⟩

theorem CarriesError.firstError? (h : v.CarriesError) : v.firstError?.isSome = true := by
  obtain ⟨c, mem, isError⟩ := h
  exact List.findSome?_isSome_iff.2 ⟨c, mem, isError⟩

theorem CarriesError.toCell (h : v.CarriesError) : ∃ code, v.toCell = .error code := by
  cases v with
  | table rows => exact ⟨.wrongType, rfl⟩
  | scalar c =>
      obtain ⟨code, rfl⟩ := carriesError_scalar.1 h
      exact ⟨code, rfl⟩

theorem Refused.ofAnswer {α : Type} {a : Answer α} (h : Refused a) (f : α → FormulaValue) :
    (ofAnswer f a).IsError := by
  obtain ⟨code, rfl⟩ := h
  exact ⟨code, rfl⟩

theorem NoScalar.toNumber (h : v.NoScalar) : Refused v.toNumber := h.bind _

theorem NoScalar.toText (h : v.NoScalar) : Refused v.toText := h.bind _

theorem NoScalar.toBoolean (h : v.NoScalar) : Refused v.toBoolean := h.bind _

theorem NoScalar.negate (h : v.NoScalar) : v.negate.IsError := Refused.ofAnswer (h.toNumber.map _) _

end FormulaValue

open FormulaValue (NoScalar)

theorem BinaryOp.apply_refused (op : BinaryOp) {v w : FormulaValue} (h : v.NoScalar ∨ w.NoScalar) :
    (op.apply v w).IsError := by
  apply FormulaValue.Refused.ofAnswer
  rcases h with left | right
  · exact left.bind _
  · exact .next fun _ => right.bind _

/-! ## Functions -/

section
variable {u v w : FormulaValue}

theorem Aggregate.roundTo_refused (h : u.NoScalar ∨ v.NoScalar) : Refused (roundTo u v) := by
  rcases h with number | digits
  · exact number.toNumber.bind _
  · exact .next fun _ => digits.toNumber.bind _

theorem TextPart.take_refused {part : Nat → String → String} (h : u.NoScalar ∨ v.NoScalar) :
    Refused (take part u (some v)) := by
  rcases h with text | count
  · exact text.toText.bind _
  · exact .next fun _ => (count.toNumber.bind _).bind _

namespace Serial

theorem dateOf_refused (h : v.NoScalar) : Refused (dateOf v) := h.toNumber.bind _

theorem ofDate_refused (h : u.NoScalar ∨ v.NoScalar ∨ w.NoScalar) : Refused (ofDate u v w) := by
  rcases h with year | month | day
  · exact year.toNumber.bind _
  · exact .next fun _ => month.toNumber.bind _
  · exact .next fun _ => .next fun _ => day.toNumber.bind _

theorem daysBetween_refused (h : u.NoScalar ∨ v.NoScalar) : Refused (daysBetween u v) := by
  rcases h with finish | start
  · exact finish.toNumber.bind _
  · exact .next fun _ => start.toNumber.bind _

theorem monthsLater_refused (h : u.NoScalar ∨ v.NoScalar) : Refused (monthsLater u v) := by
  rcases h with start | months
  · exact (dateOf_refused start).bind _
  · exact .next fun _ => months.toNumber.bind _

end Serial

end

namespace Builtin

/-- Functions that select among their arguments, or count what there is in them. -/
def hidesErrors : Builtin → Bool
  | ifElse | iferror | count | vlookup | hlookup | index | matchKey => true
  | _ => false

variable {f : Builtin} {args : List FormulaValue} {v : FormulaValue}

theorem run?_refused (scalars : f.policy = .scalars) (shows : f.hidesErrors = false)
    (h : ∃ v ∈ args, v.NoScalar) (run : f.run? args = some v) : v.IsError := by
  revert run
  fun_cases f.run? args <;>
    try first | exact absurd scalars (by decide) | exact absurd shows (by decide)
  all_goals rintro ⟨⟩
  all_goals
    apply FormulaValue.Refused.ofAnswer
    simp only [List.exists_mem_cons_iff, List.not_mem_nil, false_and, exists_false, or_false] at h
  · exact h.toNumber.map _
  · exact Aggregate.roundTo_refused h
  · exact h.toBoolean.map _
  · exact h.toText.bind _
  · exact TextPart.take_refused h
  · exact h.toText.bind _
  · exact TextPart.take_refused h
  · exact h.toText.map _
  · exact h.toText.map _
  · exact h.toText.map _
  · exact Serial.ofDate_refused h
  · exact (Serial.dateOf_refused h).map _
  · exact (Serial.dateOf_refused h).map _
  · exact (Serial.dateOf_refused h).map _
  · exact Serial.daysBetween_refused h
  · exact Serial.monthsLater_refused h

theorem looksUp_of_shows (shows : f.hidesErrors = false) : f.looksUp = false := by
  cases f with
  | vlookup | hlookup | index => cases shows
  | _ => rfl

theorem call_carries (shows : f.hidesErrors = false) (h : ∃ v ∈ args, v.CarriesError)
    (called : f.call args = some v) : v.IsError := by
  unfold call at called
  split at called
  · rename_i code _
    cases called
    exact ⟨code, rfl⟩
  · rename_i passed
    cases policy : f.policy with
    | trap => cases f <;> cases policy <;> cases shows
    | propagate =>
        obtain ⟨v, mem, carries⟩ := h
        rw [policy] at passed
        have found := List.findSome?_isSome_iff.2 ⟨v, mem, carries.firstError?⟩
        rw [ErrorPolicy.firstError?] at passed
        rw [passed] at found
        cases found
    | scalars =>
        obtain ⟨v, mem, carries⟩ := h
        exact run?_refused policy shows ⟨v, mem, carries.noScalar⟩ called

end Builtin

/-! ## Expressions -/

namespace Resolver

/-- What the cell is read as is an error: one that it stores, one that its pending formula gives, or
the one for cycles. -/
def ErrorAt (r : Resolver) (visiting : List Position) (p : Position) : Prop :=
  ∀ c, r.read visiting p = .ok c → c.isError = true

variable {r : Resolver} {p : Position}

theorem errorAt_of_settled {code : ErrorCode} (h : r.lookup p = .settled (.error code))
    (visiting : List Position) : r.ErrorAt visiting p := by
  intro c value
  rw [read_settled h] at value
  cases value
  rfl

theorem errorAt_of_pending {e : Expr} {visiting : List Position} (h : r.lookup p = .pending e)
    (fails : ∀ v, evaluate r (p :: visiting) e = .ok v → v.CarriesError) : r.ErrorAt visiting p := by
  intro c value
  by_cases entered : p ∈ visiting
  · rw [read_visiting h entered] at value
    cases value
    rfl
  · rw [read_pending h entered] at value
    obtain ⟨v, whole, rfl⟩ := map_eq_ok.1 value
    obtain ⟨code, shown⟩ := (fails v whole).toCell
    rw [shown]
    rfl

end Resolver

namespace Expr

inductive MeetsError (r : Resolver) (visiting : List Position) : Expr → Prop
  | literal (code : ErrorCode) : MeetsError r visiting (.error code)
  | cell {ref : CellRef} : r.ErrorAt visiting ref.toPosition → MeetsError r visiting (.cell ref)
  | range {area : CellRange} {p : Position} : area.Contains p → r.limits.Contains p →
      r.ErrorAt visiting p → MeetsError r visiting (.range area)

def ShowsErrors (e : Expr) : Prop :=
  ∀ function args f, Occurs (.call function args) e → Builtin.ofName? function = some f →
    f.hidesErrors = false

variable {r : Resolver} {visiting : List Position} {x e : Expr} {v : FormulaValue}

theorem MeetsError.carriesError (h : x.MeetsError r visiting)
    (value : evaluate r visiting x = .ok v) : v.CarriesError := by
  unfold evaluate at value
  cases h with
  | literal code =>
      rw [eval] at value
      cases value
      exact ⟨.error code, List.mem_singleton_self _, rfl⟩
  | cell isError =>
      rw [eval, map_eq_ok] at value
      obtain ⟨c, found, rfl⟩ := value
      exact ⟨c, List.mem_singleton_self _, isError c found⟩
  | @range area p within inside isError =>
      rcases eval_range_eq_ok.1 value with ⟨beyond, _⟩ | ⟨cut, clamped, rows, cells, rfl⟩
      · have mentioned : (Expr.range area).Mentions p := ⟨area, by simp [references], within⟩
        have listed := mem_precedents.2 ⟨mentioned, inside⟩
        simp [precedents, references, beyond] at listed
      · have listed := CellRange.mem_positions.2
          ((CellRange.contains_clamped clamped).2 ⟨within, inside⟩)
        obtain ⟨inRows, inColumns⟩ := CellRange.mem_positions_iff_lines.1 listed
        obtain ⟨line, memRows, line_eq⟩ := exists_of_forall₂ cells inRows
        obtain ⟨c, memLine, found⟩ := exists_of_forall₂ line_eq inColumns
        exact ⟨c, List.mem_flatten.2 ⟨line, memRows, memLine⟩, isError c found⟩

theorem Occurs.carriesError (h : Occurs x e) (source : x.MeetsError r visiting)
    (shows : e.ShowsErrors) (value : evaluate r visiting e = .ok v) : v.CarriesError := by
  -- The induction is on where the source occurs: every operator and every function on the way up is
  -- given a value that carries an error.
  induction h generalizing v with
  | here => exact source.carriesError value
  | left _ ih =>
      obtain ⟨a, b, first, _, rfl⟩ := eval_binary_eq_ok.1 value
      have carries := ih (fun function args f occurs => shows function args f (.left occurs)) first
      exact (BinaryOp.apply_refused _ (.inl carries.noScalar)).carriesError
  | right _ ih =>
      obtain ⟨a, b, _, second, rfl⟩ := eval_binary_eq_ok.1 value
      have carries := ih (fun function args f occurs => shows function args f (.right occurs)) second
      exact (BinaryOp.apply_refused _ (.inr carries.noScalar)).carriesError
  | negated _ ih =>
      obtain ⟨a, inner, rfl⟩ := eval_negate_eq_ok.1 value
      have carries := ih (fun function args f occurs => shows function args f (.negated occurs)) inner
      exact carries.noScalar.negate.carriesError
  | argument mem _ ih =>
      rcases eval_call_eq_ok.1 value with ⟨_, rfl⟩ | ⟨f, vs, named, _, values, called⟩
      · exact FormulaValue.IsError.carriesError ⟨.unknownName, rfl⟩
      · obtain ⟨a, memValues, argument⟩ := exists_of_forall₂ values mem
        have carries := ih
          (fun function args f occurs => shows function args f (.argument mem occurs)) argument
        exact (Builtin.call_carries (shows _ _ f .here named) ⟨a, memValues, carries⟩ called).carriesError

theorem ShowsErrors.reads_of_crash (shows : e.ShowsErrors) (dies : evaluate r visiting e = .error .crash) :
    ∃ q, e.Reads r.limits q ∧ r.read visiting q = .error .crash := by
  cases eval_eq_error e dies with
  | reading reads crashes => exact ⟨_, reads, crashes⟩
  | @unanswered function args f vs occurs named allowed values unanswered =>
      rw [(evalArgs_eq_ok.1 values).length_eq] at allowed
      have answered := Builtin.run?_isSome_of_plain
        (Builtin.looksUp_of_shows (shows function args f occurs named)) allowed
      rw [Builtin.run?_of_call_eq_none unanswered] at answered
      cases answered

end Expr

namespace Resolver

def missingPrice : Resolver where
  limits := { rows := 2, columns := 2 }
  lookup p :=
    if p = ⟨1, 1⟩ then .pending (.cell { row := 1, column := 0 })
    else .settled (if p = ⟨1, 0⟩ then .error .notAvailable else .empty)
  finite := by
    refine ⟨[⟨1, 1⟩], fun p e pending => ?_⟩
    split at pending
    · rename_i same
      exact List.mem_singleton.2 same
    · cases pending

def labelled : Expr :=
  .binary .concat
    (.call "LEFT" [.range (.between { row := 0, column := 0 } { row := 1, column := 1 })])
    (.text "!")

theorem missingPrice_reads {visiting : List Position} (q : Position) :
    ∃ c, missingPrice.read visiting q = .ok c := by
  by_cases pending : q = ⟨1, 1⟩
  · subst pending
    by_cases entered : (⟨1, 1⟩ : Position) ∈ visiting
    · exact ⟨_, read_visiting rfl entered⟩
    · refine ⟨.error .notAvailable, ?_⟩
      rw [read_pending rfl entered, Expr.eval, CellRef.toPosition, read_settled rfl]
      rfl
  · exact ⟨_, read_settled (if_neg pending) visiting⟩

theorem labelled_shows {function : String} {args : List Expr} {f : Builtin}
    (occurs : Expr.Occurs (.call function args) labelled) (named : Builtin.ofName? function = some f) :
    f.hidesErrors = false := by
  unfold labelled at occurs
  cases occurs with
  | right text => cases text
  | left call =>
      cases call with
      | here =>
          rw [show Builtin.ofName? "LEFT" = some .left from Builtin.ofName_name .left] at named
          cases named
          rfl
      | argument mem area =>
          obtain rfl := List.mem_singleton.1 mem
          cases area

end Resolver

end Spreadsheet
