import Spreadsheet.Proofs.Eval.Tables
import Spreadsheet.Proofs.Number.Magnitude

namespace Spreadsheet

/-! ## Values -/

def CellValue.Finite (c : CellValue) : Prop := ∀ x, c = .number x → x.isFinite = true

def FormulaValue.Finite (v : FormulaValue) : Prop := ∀ c ∈ v.scalars, c.Finite

def FiniteAnswer (a : Answer Float) : Prop := ∀ x, a = .ok x → x.isFinite = true

theorem isFinite_zero : (0 : Float).isFinite = true := by decide +kernel

theorem isFinite_readNumber {s : String} {x : Float} (h : readNumber s = some x) :
    x.isFinite = true := by
  unfold readNumber Decimal.readFinite at h
  split at h
  · split at h
    · exact (Option.filter_eq_some_iff.1 h).2
    · cases h
  · cases h

namespace CellValue

@[simp] theorem finite_number {x : Float} : (number x).Finite ↔ x.isFinite = true := by
  simp [Finite]

@[simp] theorem finite_empty : empty.Finite := by simp [Finite]

@[simp] theorem finite_text (s : String) : (text s).Finite := by simp [Finite]

@[simp] theorem finite_boolean (b : Bool) : (boolean b).Finite := by simp [Finite]

@[simp] theorem finite_error (code : ErrorCode) : (error code).Finite := by simp [Finite]

theorem finite_ofLiteral (raw : String) : (ofLiteral raw).Finite := by
  unfold ofLiteral
  split
  · simp
  · split
    · rename_i read
      simpa using isFinite_readNumber read
    · simp
    · simp

theorem Finite.toNumber {c : CellValue} (h : c.Finite) : FiniteAnswer c.toNumber := by
  intro x value
  cases c with
  | number y =>
      cases value
      exact h x rfl
  | boolean b =>
      cases value
      cases b <;> decide +kernel
  | empty =>
      cases value
      exact isFinite_zero
  | text s =>
      cases read : readNumber s with
      | none => simp [CellValue.toNumber, read] at value
      | some y =>
          simp [CellValue.toNumber, read] at value
          exact value ▸ isFinite_readNumber read
  | error code => cases value

end CellValue

namespace FormulaValue
variable {v : FormulaValue}

@[simp] theorem finite_scalar {c : CellValue} : (scalar c).Finite ↔ c.Finite := by
  simp [Finite, scalars]

@[simp] theorem finite_table {rows : List (List CellValue)} :
    (table rows).Finite ↔ ∀ cells ∈ rows, ∀ c ∈ cells, c.Finite := List.forall_mem_flatten

theorem Finite.grid (h : v.Finite) : ∀ cells ∈ v.grid, ∀ c ∈ cells, c.Finite := by
  cases v with
  | scalar c => simpa [FormulaValue.grid] using h
  | table rows => exact finite_table.1 h

theorem Finite.toNumber (h : v.Finite) : FiniteAnswer v.toNumber := by
  intro x value
  obtain ⟨c, isScalar, number⟩ := bind_eq_ok.1 value
  cases v with
  | table rows => cases isScalar
  | scalar c' =>
      have finite : c'.Finite := finite_scalar.1 h
      cases c' with
      | error code => cases isScalar
      | empty | number | text | boolean =>
          cases isScalar
          exact finite.toNumber x number

theorem Finite.toCell (h : v.Finite) : v.toCell.Finite := by
  cases v with
  | table rows => simp [FormulaValue.toCell]
  | scalar c =>
      cases c with
      | empty => simpa [FormulaValue.toCell] using isFinite_zero
      | number | text | boolean | error => exact finite_scalar.1 h

theorem finite_ofAnswer {α : Type} {f : α → FormulaValue} {a : Answer α}
    (each : ∀ x, a = .ok x → (f x).Finite) : (ofAnswer f a).Finite := by
  cases a with
  | ok x => exact each x rfl
  | error code => simp [ofAnswer, error]

theorem finite_numberAnswer {a : Answer Float} (h : FiniteAnswer a) : (numberAnswer a).Finite :=
  finite_ofAnswer fun x value => by simpa [number] using h x value

theorem finite_of_exponentField {x : Float} {n : Nat} (h : Binary64.exponentField x ≤ n)
    (small : n < 2047) : (number x).Finite := by
  apply finite_scalar.2
  apply CellValue.finite_number.2
  apply Binary64.isFinite_iff.2
  omega

theorem finite_countAnswer (a : Answer Nat) : (countAnswer a).Finite := by
  apply finite_ofAnswer
  intro n _
  have word : min n (UInt64.size - 1) < 2 ^ (63 + 1) := by simp [UInt64.size]
  exact finite_of_exponentField (Binary64.exponentField_ofNat_le word (by decide)) (by decide)

theorem finite_integerAnswer {a : Answer Int} (small : ∀ n, a = .ok n → n.natAbs < 2 ^ (52 + 1)) :
    (integerAnswer a).Finite := by
  apply finite_ofAnswer
  intro n value
  exact finite_of_exponentField (Binary64.exponentField_ofInt_le (small n value) (by decide)) (by decide)

theorem finite_booleanAnswer (a : Answer Bool) : (booleanAnswer a).Finite :=
  finite_ofAnswer fun b _ => by simp [boolean]

theorem finite_textAnswer (a : Answer String) : (textAnswer a).Finite :=
  finite_ofAnswer fun s _ => by simp [text]

theorem Finite.negate (h : v.Finite) : v.negate.Finite := by
  apply finite_numberAnswer
  intro x value
  obtain ⟨y, number, rfl⟩ := map_eq_ok.1 value
  rw [isFinite_neg]
  exact h.toNumber y number

end FormulaValue

/-! ## Operators -/

theorem finiteAnswer_finiteNumber (x : Float) : FiniteAnswer (finiteNumber x) := by
  intro y value
  unfold finiteNumber at value
  split at value
  · rename_i finite
    cases value
    exact finite
  · cases value

namespace BinaryOp

theorem arithmetic_finite (op : BinaryOp) (x y : Float) : FiniteAnswer (op.arithmetic x y) := by
  unfold arithmetic
  split
  · apply finiteAnswer_finiteNumber
  · apply finiteAnswer_finiteNumber
  · apply finiteAnswer_finiteNumber
  · split
    · exact nofun
    · apply finiteAnswer_finiteNumber
  · split
    · exact nofun
    · apply finiteAnswer_finiteNumber
  · exact nofun

theorem applyScalars_finite (op : BinaryOp) {a b c : CellValue} (value : op.applyScalars a b = .ok c) :
    c.Finite := by
  cases op with
  | add | subtract | multiply | divide | power =>
      obtain ⟨x, _, value⟩ := bind_eq_ok.1 value
      obtain ⟨y, _, value⟩ := bind_eq_ok.1 value
      obtain ⟨z, computed, rfl⟩ := map_eq_ok.1 value
      simpa using arithmetic_finite _ x y z computed
  | concat =>
      obtain ⟨s, _, value⟩ := bind_eq_ok.1 value
      obtain ⟨t, _, value⟩ := bind_eq_ok.1 value
      cases value
      apply CellValue.finite_text
  | equal | notEqual | less | lessEqual | greater | greaterEqual =>
      cases value
      apply CellValue.finite_boolean

def Overflows (op : BinaryOp) (x y : Float) : Prop :=
  match op with
  | add => (x + y).isFinite = false
  | subtract => (x - y).isFinite = false
  | multiply => (x * y).isFinite = false
  | divide => (y == 0) = false ∧ (x / y).isFinite = false
  | power => (x == 0 && y < 0) = false ∧ (Float.pow x y).isFinite = false
  | _ => False

theorem finiteNumber_of_overflow {x : Float} (overflow : x.isFinite = false) :
    finiteNumber x = .error .badNumber := by simp [finiteNumber, overflow]

theorem arithmetic_of_overflows {op : BinaryOp} {x y : Float} (overflows : op.Overflows x y) :
    op.arithmetic x y = .error .badNumber := by
  cases op with
  | add | subtract | multiply => exact finiteNumber_of_overflow overflows
  | divide | power => simp [arithmetic, overflows.1, finiteNumber_of_overflow overflows.2]
  | concat | equal | notEqual | less | lessEqual | greater | greaterEqual => exact overflows.elim

theorem apply_of_overflows {op : BinaryOp} {x y : Float} (overflows : op.Overflows x y) :
    op.apply (.number x) (.number y) = .error .badNumber := by
  have shown : FormulaValue.ofAnswer .scalar ((op.arithmetic x y).map CellValue.number) =
      .error .badNumber := by
    rw [arithmetic_of_overflows overflows]
    rfl
  cases op with
  | add | subtract | multiply | divide | power => exact shown
  | concat | equal | notEqual | less | lessEqual | greater | greaterEqual => exact overflows.elim

theorem apply_finite (op : BinaryOp) (v w : FormulaValue) : (op.apply v w).Finite := by
  apply FormulaValue.finite_ofAnswer
  intro c value
  obtain ⟨a, _, value⟩ := bind_eq_ok.1 value
  obtain ⟨b, _, value⟩ := bind_eq_ok.1 value
  exact FormulaValue.finite_scalar.2 (op.applyScalars_finite value)

end BinaryOp

/-! ## Functions -/

namespace Aggregate

theorem cellNumber_finite {c : CellValue} (finite : c.Finite) {n : Option Float}
    (h : cellNumber? c = .ok n) : ∀ x ∈ n, x.isFinite = true := by
  intro x mem
  cases c with
  | number y =>
      cases h
      cases mem
      exact finite x rfl
  | error code => cases h
  | empty | text | boolean =>
      cases h
      cases mem

theorem argNumbers_finite {v : FormulaValue} (finite : v.Finite) {xs : List Float}
    (h : argNumbers v = .ok xs) : ∀ x ∈ xs, x.isFinite = true := by
  intro x mem
  cases v with
  | scalar c =>
      obtain ⟨y, number, rfl⟩ := map_eq_ok.1 h
      rw [List.mem_singleton.1 mem]
      exact finite.toNumber y number
  | table rows =>
      obtain ⟨ns, numbers, rfl⟩ := map_eq_ok.1 h
      obtain ⟨n, listed, same⟩ := List.mem_filterMap.1 mem
      obtain ⟨c, inTable, number⟩ := exists_of_forall₂ (mapM_eq_ok.1 numbers).flip listed
      exact cellNumber_finite (finite c inTable) number x same

variable {args : List FormulaValue} {xs : List Float}

theorem numbers_finite (finite : ∀ v ∈ args, v.Finite) (h : numbers args = .ok xs) :
    ∀ x ∈ xs, x.isFinite = true := by
  intro x mem
  obtain ⟨parts, each, rfl⟩ := map_eq_ok.1 h
  obtain ⟨part, listed, inPart⟩ := List.mem_flatten.1 mem
  obtain ⟨v, argument, number⟩ := exists_of_forall₂ (mapM_eq_ok.1 each).flip listed
  exact argNumbers_finite (finite v argument) number x inPart

theorem reduce_finite {f : Float → Float → Float} (choice : ∀ x y, f x y = x ∨ f x y = y)
    (finite : ∀ x ∈ xs, x.isFinite = true) : (reduce f xs).isFinite = true := by
  cases xs with
  | nil => exact isFinite_zero
  | cons x xs =>
      show (xs.foldl f x).isFinite = true
      induction xs generalizing x with
      | nil => exact finite x (List.mem_singleton_self x)
      | cons y xs ih =>
          -- What was chosen so far is one of the numbers before it.
          apply ih
          intro z mem
          rcases List.mem_cons.1 mem with rfl | later
          · rcases choice x y with same | same
            · rw [same]
              exact finite x List.mem_cons_self
            · rw [same]
              exact finite y (List.mem_cons_of_mem x List.mem_cons_self)
          · exact finite z (List.mem_cons_of_mem x (List.mem_cons_of_mem y later))

theorem reduced_finite {f : Float → Float → Float} (choice : ∀ x y, f x y = x ∨ f x y = y)
    (finite : ∀ v ∈ args, v.Finite) : FiniteAnswer ((numbers args).map (reduce f)) := by
  intro x value
  obtain ⟨xs, listed, rfl⟩ := map_eq_ok.1 value
  exact reduce_finite choice (numbers_finite finite listed)

theorem smaller_choice (x y : Float) : smaller x y = x ∨ smaller x y = y := by
  unfold smaller
  split
  · exact .inr rfl
  · split
    · exact .inr rfl
    · exact .inl rfl

theorem greater_choice (x y : Float) : greater x y = x ∨ greater x y = y := by
  unfold greater
  split
  · exact .inr rfl
  · split
    · exact .inr rfl
    · exact .inl rfl

theorem roundTo_finite {v w : FormulaValue} (finite : v.Finite) : FiniteAnswer (roundTo v w) := by
  intro x value
  obtain ⟨y, number, value⟩ := bind_eq_ok.1 value
  obtain ⟨d, _, value⟩ := bind_eq_ok.1 value
  cases value
  exact Decimal.roundHalfAway_isFinite (finite.toNumber y number) _

end Aggregate

theorem FormulaValue.Finite.abs {v : FormulaValue} (h : v.Finite) :
    FiniteAnswer (v.toNumber.map Float.abs) := by
  intro x value
  obtain ⟨y, number, rfl⟩ := map_eq_ok.1 value
  rw [isFinite_abs]
  exact h.toNumber y number

namespace Lookup

theorem cellAt_mem {rows : List (List CellValue)} {row column : Nat} {c : CellValue}
    (h : cellAt rows row column = some c) : ∃ cells ∈ rows, c ∈ cells := by
  unfold cellAt at h
  split at h
  · cases h
  · obtain ⟨cells, inRows, inCells⟩ := Option.bind_eq_some_iff.1 h
    exact ⟨cells, List.mem_of_getElem? inRows, List.mem_of_getElem? inCells⟩

theorem answerAt_finite {α : Type} {place : Answer α} {cell : α → Option CellValue} {w : FormulaValue}
    (cells : ∀ spot c, cell spot = some c → c.Finite) (h : answerAt place cell = some w) :
    w.Finite := by
  cases place with
  | error code =>
      cases h
      simp [FormulaValue.error]
  | ok spot =>
      obtain ⟨c, found, rfl⟩ := Option.map_eq_some_iff.1 h
      exact FormulaValue.finite_scalar.2 (cells spot c found)

variable {key table first : FormulaValue} {second mode : Option FormulaValue} {w : FormulaValue}

theorem cellAt_finite (finite : table.Finite) {row column : Nat} {c : CellValue}
    (h : cellAt table.grid row column = some c) : c.Finite := by
  obtain ⟨cells, inRows, inCells⟩ := cellAt_mem h
  exact finite.grid cells inRows c inCells

theorem vertical_finite (finite : table.Finite) (h : vertical key table first mode = some w) :
    w.Finite :=
  answerAt_finite (fun _ _ found => cellAt_finite finite found) h

theorem horizontal_finite (finite : table.Finite) (h : horizontal key table first mode = some w) :
    w.Finite :=
  answerAt_finite (fun _ _ found => cellAt_finite finite found) h

theorem index_finite (finite : table.Finite) (h : index table first second = some w) : w.Finite := by
  apply answerAt_finite _ h
  intro spot c found
  dsimp only at found
  split at found
  · cases found
  · cases found
    cases inside : cellAt table.grid spot.1 spot.2 with
    | none => apply CellValue.finite_error
    | some c => exact cellAt_finite finite inside

end Lookup

namespace Serial

theorem ofParts_bounds {year month day n : Int} (h : ofParts year month day = .ok n) :
    0 ≤ n ∧ n ≤ last := by
  obtain ⟨_, h⟩ := guarded_eq_ok.1 h
  split at h
  · cases h
  · dsimp only at h
    split at h
    · rename_i within
      cases h
      exact within
    · cases h

theorem ofDate_bounds {year month day : FormulaValue} {n : Int} (h : ofDate year month day = .ok n) :
    0 ≤ n ∧ n ≤ last := by
  obtain ⟨_, _, h⟩ := bind_eq_ok.1 h
  obtain ⟨_, _, h⟩ := bind_eq_ok.1 h
  obtain ⟨_, _, h⟩ := bind_eq_ok.1 h
  obtain ⟨_, h⟩ := guarded_eq_ok.1 h
  exact ofParts_bounds h

theorem monthsLater_bounds {start months : FormulaValue} {n : Int} (h : monthsLater start months = .ok n) :
    0 ≤ n ∧ n ≤ last := by
  obtain ⟨_, _, h⟩ := bind_eq_ok.1 h
  obtain ⟨_, _, h⟩ := bind_eq_ok.1 h
  obtain ⟨_, h⟩ := guarded_eq_ok.1 h
  split at h
  · cases h
  · exact ofParts_bounds h

theorem toDate_bounds {n : Int} {d : Date} (h : toDate n = .ok d) : 0 ≤ n ∧ n ≤ last := by
  obtain ⟨within, _⟩ := guarded_eq_ok.1 h
  omega

theorem natAbs_lt_of_serial {n : Int} (h : 0 ≤ n ∧ n ≤ last) : n.natAbs < 2 ^ (52 + 1) := by
  have latest : last = 2958465 := rfl
  omega

theorem yearOf_bounds {n : Int} (low : 0 ≤ n) (high : n < 2 ^ 32) :
    (Gregorian.yearOf n).natAbs < 2 ^ (52 + 1) := by
  unfold Gregorian.yearOf
  dsimp only
  split
  · omega
  · split <;> omega

theorem year_bound {n : Int} {d : Date} (h : toDate n = .ok d) : d.year.natAbs < 2 ^ (52 + 1) := by
  obtain ⟨low, high⟩ := toDate_bounds h
  have latest : last = 2958465 := rfl
  have first : epoch = 693595 := by decide
  obtain ⟨_, h⟩ := guarded_eq_ok.1 h
  split at h
  · cases h
    decide
  · split at h
    · cases h
      decide
    · cases h
      apply yearOf_bounds
      · split <;> omega
      · split <;> omega

theorem year_of_serial {v : FormulaValue} {n : Int} (h : (dateOf v).map Date.year = .ok n) :
    n.natAbs < 2 ^ (52 + 1) := by
  obtain ⟨d, dated, rfl⟩ := map_eq_ok.1 h
  obtain ⟨x, _, dated⟩ := bind_eq_ok.1 dated
  exact year_bound dated

theorem truncate_bound {x : Float} {d : Date} (h : toDate (Binary64.truncate64 x) = .ok d) :
    (Binary64.truncate x).natAbs < 2 ^ 52 := by
  obtain ⟨low, high⟩ := toDate_bounds h
  have latest : last = 2958465 := rfl
  have least : Int64.minValue.toInt = -9223372036854775808 := rfl
  have greatest : Int64.maxValue.toInt = 9223372036854775807 := rfl
  -- A number that saturates would be no serial.
  unfold Binary64.truncate64 Binary64.saturate Binary64.clamp at low high
  omega

theorem daysBetween_finite {v w : FormulaValue} (finite : v.Finite) (finite' : w.Finite) :
    FiniteAnswer (daysBetween v w) := by
  intro x value
  obtain ⟨y, number, value⟩ := bind_eq_ok.1 value
  obtain ⟨z, number', value⟩ := bind_eq_ok.1 value
  obtain ⟨_, dated, value⟩ := bind_eq_ok.1 value
  obtain ⟨_, dated', value⟩ := bind_eq_ok.1 value
  cases value
  have first := Binary64.exponentField_trunc_le
    (not_special_of_isFinite (finite.toNumber y number)).1 (truncate_bound dated)
  have second := Binary64.exponentField_trunc_le
    (not_special_of_isFinite (finite'.toNumber z number')).1 (truncate_bound dated')
  have difference := Binary64.exponentField_sub_le first second (by decide) (by decide)
  exact Binary64.isFinite_iff.2 (by omega)

end Serial

namespace Logic
variable {u v w : FormulaValue}

theorem choose_finite (yes : v.Finite) (no : w.Finite) : (choose u v w).Finite := by
  unfold choose
  split
  · exact yes
  · exact no
  · simp [FormulaValue.error]

theorem orElse_finite (first : v.Finite) (second : w.Finite) : (orElse v w).Finite := by
  rcases orElse_cases v w with same | same
  · rwa [same]
  · rwa [same]

end Logic

namespace Builtin
open FormulaValue (finite_numberAnswer finite_integerAnswer finite_countAnswer finite_booleanAnswer
  finite_textAnswer)

def totals : Builtin → Bool
  | sum | average => true
  | _ => false

variable {f : Builtin} {args : List FormulaValue} {w : FormulaValue}

theorem run?_finite (safe : f.totals = false) (finite : ∀ v ∈ args, v.Finite)
    (run : f.run? args = some w) : w.Finite := by
  revert run
  fun_cases f.run? args <;> intro run
  -- Counts, truth values and texts are finite whatever they are computed from, and lookups give cells
  -- of their tables.
  all_goals try first
    | exact absurd safe (by decide)
    | cases run <;> first | apply finite_countAnswer | apply finite_booleanAnswer | apply finite_textAnswer
    | exact Lookup.vertical_finite (finite _ (by simp)) run
    | exact Lookup.horizontal_finite (finite _ (by simp)) run
    | exact Lookup.index_finite (finite _ (by simp)) run
  all_goals
    cases run
    try simp only [List.forall_mem_cons] at finite
  · exact finite_numberAnswer (Aggregate.reduced_finite Aggregate.smaller_choice finite)
  · exact finite_numberAnswer (Aggregate.reduced_finite Aggregate.greater_choice finite)
  · exact finite_numberAnswer finite.1.abs
  · exact finite_numberAnswer (Aggregate.roundTo_finite finite.1)
  · exact Logic.choose_finite finite.2.1 (by simp [FormulaValue.boolean])
  · exact Logic.choose_finite finite.2.1 finite.2.2.1
  · exact Logic.orElse_finite finite.1 finite.2.1
  · exact finite_integerAnswer fun _ value => Serial.natAbs_lt_of_serial (Serial.ofDate_bounds value)
  · exact finite_integerAnswer fun _ value => Serial.year_of_serial value
  · exact finite_numberAnswer (Serial.daysBetween_finite finite.1 finite.2.1)
  · exact finite_integerAnswer fun _ value => Serial.natAbs_lt_of_serial (Serial.monthsLater_bounds value)

theorem call_finite (safe : f.totals = false) (finite : ∀ v ∈ args, v.Finite) {w : FormulaValue}
    (called : f.call args = some w) : w.Finite := by
  unfold call at called
  split at called
  · cases called
    simp [FormulaValue.error]
  · exact run?_finite safe finite called

theorem call_total (f : Builtin) (args : List FormulaValue) (totals : f.totals = true) :
    (∃ x, f.call args = some (.number x)) ∨ ∃ code, f.call args = some (.error code) := by
  have answered : ∀ a : Answer Float,
      (∃ x, some (FormulaValue.numberAnswer a) = some (.number x)) ∨
        ∃ code, some (FormulaValue.numberAnswer a) = some (.error code) := by
    intro a
    cases a with
    | ok x => exact .inl ⟨x, rfl⟩
    | error code => exact .inr ⟨code, rfl⟩
  unfold call
  split
  · exact .inr ⟨_, rfl⟩
  · cases f with
    | sum | average => apply answered
    | _ => cases totals

end Builtin

/-! ## Expressions -/

namespace Expr

/-- The sums and means in the expression are finite where they are numbers. -/
def TotalsFinite (limits : Limits) (read : Position → Reading CellValue) (e : Expr) : Prop :=
  ∀ function args f x, Occurs (.call function args) e → Builtin.ofName? function = some f →
    f.totals = true → (Expr.call function args).eval limits read = .ok (.number x) → x.isFinite = true

variable {limits : Limits} {read : Position → Reading CellValue}

structure Bounded (limits : Limits) (read : Position → Reading CellValue) (e : Expr) : Prop where
  cells : ∀ p c, e.Mentions p → read p = .ok c → c.Finite
  totals : e.TotalsFinite limits read

theorem Bounded.part {x e : Expr} (h : e.Bounded limits read) (occurs : Occurs x e) :
    x.Bounded limits read := by
  constructor
  · rintro p c ⟨r, refers, contains⟩ value
    exact h.cells p c ⟨r, occurs.references refers, contains⟩ value
  · intro function args f y inner
    exact h.totals function args f y (inner.trans occurs)

theorem Bounded.range_finite {r : CellRange} (h : (range r).Bounded limits read) {v : FormulaValue}
    (value : (range r).eval limits read = .ok v) : v.Finite := by
  rcases eval_range_eq_ok.1 value with ⟨_, rfl⟩ | ⟨r', clamped, rows, table, rfl⟩
  · simp
  · rw [FormulaValue.finite_table]
    intro cells inRows c inCells
    obtain ⟨row, rowMem, line⟩ := exists_of_forall₂ table.flip inRows
    have line : List.Forall₂ (fun column c => read ⟨row, column⟩ = .ok c) r'.columns cells := line
    obtain ⟨column, columnMem, found⟩ := exists_of_forall₂ line.flip inCells
    have listed : (⟨row, column⟩ : Position) ∈ r'.positions :=
      CellRange.mem_positions_iff_lines.2 ⟨rowMem, columnMem⟩
    have contains := (CellRange.contains_clamped clamped).1 (CellRange.mem_positions.1 listed)
    exact h.cells _ c ⟨r, by simp [references], contains.1⟩ found

theorem Bounded.eval_finite {e : Expr} (h : e.Bounded limits read) (well : e.WellFormed)
    {v : FormulaValue} (value : e.eval limits read = .ok v) : v.Finite := by
  induction well generalizing v with
  | number finite =>
      rw [eval] at value
      cases value
      simpa [FormulaValue.number] using finite
  | text | boolean | error =>
      rw [eval] at value
      cases value
      simp [FormulaValue.text, FormulaValue.boolean, FormulaValue.error]
  | cell =>
      rw [eval, map_eq_ok] at value
      obtain ⟨c, found, rfl⟩ := value
      exact FormulaValue.finite_scalar.2 (h.cells _ c (mentions_cell.2 rfl) found)
  | range => exact h.range_finite value
  | @binary op =>
      obtain ⟨a, b, _, _, rfl⟩ := eval_binary_eq_ok.1 value
      exact op.apply_finite a b
  | negate _ _ ih =>
      obtain ⟨a, inner, rfl⟩ := eval_negate_eq_ok.1 value
      exact (ih (h.part (.negated .here)) inner).negate
  | @call f args allowed _ ih =>
      rcases eval_call_eq_ok.1 value with ⟨_, rfl⟩ | ⟨g, vs, named, _, values, called⟩
      · simp [FormulaValue.error]
      · have finite : ∀ w ∈ vs, w.Finite := by
          intro w mem
          obtain ⟨a, argument, computed⟩ := exists_of_forall₂ values.flip mem
          exact ih a argument (h.part (.argument argument .here)) computed
        cases totals : g.totals with
        | false => exact g.call_finite totals finite called
        | true =>
            rcases g.call_total vs totals with ⟨x, same⟩ | ⟨code, same⟩
            · cases called.symm.trans same
              have bounded := h.totals _ _ g x .here named totals value
              simpa [FormulaValue.number] using bounded
            · cases called.symm.trans same
              simp [FormulaValue.error]

end Expr

end Spreadsheet
