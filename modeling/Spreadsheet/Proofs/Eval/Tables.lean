import Spreadsheet.Proofs.Eval.Dependence
import Spreadsheet.Proofs.Eval.Parts
import Spreadsheet.Proofs.Formula.RoundTrip
import Spreadsheet.Proofs.Number.Fields

/-!
# Tables are rectangular

Every table that an evaluation meets has rows of one positive length, so an index that was checked
against the length of one row is within all of them. With that, a function of an accepted formula
finds each argument and each cell it asks for, as long as its indices are numbers. NaN for an index is
the one thing that evaluation dies of.
-/

namespace Spreadsheet

/-! ## Lookups -/

namespace FormulaValue

/-- Rows of one positive length, at least one of them. A scalar counts as a single cell. -/
def Rectangular (v : FormulaValue) : Prop :=
  v.grid ≠ [] ∧ ∃ width, 0 < width ∧ ∀ cells ∈ v.grid, cells.length = width

def Numeric (v : FormulaValue) : Prop := ∀ x, v.toNumber = .ok x → x.isNaN = false

theorem rectangular_scalar (c : CellValue) : (scalar c).Rectangular :=
  ⟨List.cons_ne_nil _ _, 1, Nat.one_pos, fun cells mem => by rw [List.mem_singleton.1 mem]; rfl⟩

theorem scalar_of_answer {α : Type} {f : α → CellValue} {answer : Answer α} {w : FormulaValue}
    (h : some (ofAnswer (fun a => scalar (f a)) answer) = some w) : ∃ c, w = .scalar c := by
  cases h
  cases answer with
  | ok a => exact ⟨f a, rfl⟩
  | error code => exact ⟨.error code, rfl⟩

end FormulaValue

namespace Lookup
open FormulaValue (Rectangular Numeric)

variable {key : CellValue} {rows : List (List CellValue)} {v : FormulaValue}

theorem search_lt {mode : MatchMode} {i pos : Nat} {best : Option (Nat × CellValue)}
    {candidates : List CellValue} (before : ∀ b ∈ best, b.1 < i)
    (found : search mode key i best candidates = some pos) : pos < i + candidates.length := by
  induction candidates generalizing i best with
  | nil =>
      obtain ⟨b, chosen, rfl⟩ := Option.map_eq_some_iff.1 found
      exact before b chosen
  | cons c rest ih =>
      have later : ∀ best : Option (Nat × CellValue), (∀ b ∈ best, b.1 < i + 1) →
          search mode key (i + 1) best rest = some pos → pos < i + (c :: rest).length := by
        intro best before found
        have bound := ih before found
        rw [List.length_cons]
        omega
      rw [search] at found
      split at found
      · split at found
        · cases found
          rw [List.length_cons]
          omega
        · refine later _ (fun b chosen => ?_) found
          cases chosen
          exact Nat.lt_succ_self i
      · exact later _ (fun b chosen => Nat.lt_succ_of_lt (before b chosen)) found

theorem findPosition_lt {candidates : List CellValue} {mode : MatchMode} {pos : Nat}
    (found : findPosition key candidates mode = some pos) : pos < candidates.length := by
  have bound := search_lt (by simp) found
  omega

theorem positiveIndex_pos {n : Nat} (numeric : v.Numeric) (h : positiveIndex v = .ok n) : 0 < n := by
  obtain ⟨x, number, rest⟩ := bind_eq_ok.1 h
  obtain ⟨notSmall, same⟩ := guarded_eq_ok.1 rest
  have positive := Binary64.truncate_pos (numeric x number) notSmall
  cases same
  omega

theorem columnCount_eq {width : Nat} (some : rows ≠ [])
    (lengths : ∀ cells ∈ rows, cells.length = width) : columnCount rows = width := by
  cases rows with
  | nil => exact absurd rfl some
  | cons cells rest => exact lengths cells List.mem_cons_self

theorem cellAt_isSome {width row column : Nat} (lengths : ∀ cells ∈ rows, cells.length = width)
    (row_pos : 0 < row) (row_le : row ≤ rows.length) (column_pos : 0 < column)
    (column_le : column ≤ width) : (cellAt rows row column).isSome = true := by
  have inRows : row - 1 < rows.length := by omega
  have inCells : column - 1 < rows[row - 1].length := by
    rw [lengths _ (List.getElem_mem inRows)]
    omega
  rw [cellAt, if_neg (by omega), List.getElem?_eq_getElem inRows, Option.bind_some,
    List.getElem?_eq_getElem inCells]
  rfl

theorem locate_bounds {keyValue index : FormulaValue} {keys : List CellValue} {width pos i : Nat}
    {mode : Option FormulaValue} (numeric : index.Numeric)
    (h : locate keyValue keys width index mode = .ok (pos, i)) :
    0 < pos ∧ pos ≤ keys.length ∧ 0 < i ∧ i ≤ width := by
  cases keyValue with
  | table rows => cases h
  | scalar k =>
      obtain ⟨n, positive, rest⟩ := bind_eq_ok.1 h
      obtain ⟨mode, _, rest⟩ := bind_eq_ok.1 rest
      obtain ⟨within, rest⟩ := guarded_eq_ok.1 rest
      split at rest
      · rename_i place found
        cases rest
        have bound := findPosition_lt found
        have first := positiveIndex_pos numeric positive
        omega
      · cases rest

theorem answerAt_isSome {α : Type} {place : Answer α} {cell : α → Option CellValue}
    (h : ∀ spot, place = .ok spot → (cell spot).isSome = true) : (answerAt place cell).isSome = true := by
  cases place with
  | error code => rfl
  | ok spot =>
      rw [answerAt, Option.isSome_map]
      exact h spot rfl

theorem vertical_isSome {key table index : FormulaValue} {mode : Option FormulaValue}
    (rectangular : table.Rectangular) (numeric : index.Numeric) :
    (vertical key table index mode).isSome = true := by
  obtain ⟨some, width, _, lengths⟩ := rectangular
  apply answerAt_isSome
  rintro ⟨row, column⟩ located
  obtain ⟨row_pos, row_le, column_pos, column_le⟩ := locate_bounds numeric located
  rw [List.length_map] at row_le
  rw [columnCount_eq some lengths] at column_le
  exact cellAt_isSome lengths row_pos row_le column_pos column_le

theorem horizontal_isSome {key table index : FormulaValue} {mode : Option FormulaValue}
    (rectangular : table.Rectangular) (numeric : index.Numeric) :
    (horizontal key table index mode).isSome = true := by
  obtain ⟨some, width, _, lengths⟩ := rectangular
  apply answerAt_isSome
  rintro ⟨column, row⟩ located
  obtain ⟨column_pos, column_le, row_pos, row_le⟩ := locate_bounds numeric located
  have first : (table.grid.headD []).length = width := by
    rw [← columnCount_eq some lengths]
    cases table.grid <;> rfl
  rw [first] at column_le
  exact cellAt_isSome lengths row_pos row_le column_pos column_le

theorem indexPlace_pos {first : FormulaValue} {second : Option FormulaValue} {row column : Nat}
    (numeric : first.Numeric) (numeric' : ∀ v ∈ second, v.Numeric)
    (h : indexPlace rows first second = .ok (row, column)) : 0 < row ∧ 0 < column := by
  obtain ⟨n, positive, rest⟩ := bind_eq_ok.1 h
  have first_pos := positiveIndex_pos numeric positive
  cases second with
  | some v =>
      obtain ⟨m, positive', rest⟩ := bind_eq_ok.1 rest
      cases rest
      exact ⟨first_pos, positiveIndex_pos (numeric' v rfl) positive'⟩
  | none =>
      dsimp only at rest
      split at rest
      · cases rest
        exact ⟨Nat.one_pos, first_pos⟩
      · split at rest
        · cases rest
          exact ⟨first_pos, Nat.one_pos⟩
        · cases rest

theorem index_isSome {table first : FormulaValue} {second : Option FormulaValue}
    (numeric : first.Numeric) (numeric' : ∀ v ∈ second, v.Numeric) :
    (index table first second).isSome = true := by
  apply answerAt_isSome
  rintro ⟨row, column⟩ placed
  obtain ⟨row_pos, column_pos⟩ := indexPlace_pos numeric numeric' placed
  dsimp only
  rw [if_neg (by omega)]
  rfl

theorem scalar_of_answerAt {α : Type} {place : Answer α} {cell : α → Option CellValue}
    {w : FormulaValue} (h : answerAt place cell = some w) : ∃ c, w = .scalar c := by
  cases place with
  | error code =>
      cases h
      exact ⟨.error code, rfl⟩
  | ok spot =>
      obtain ⟨c, _, rfl⟩ := Option.map_eq_some_iff.1 h
      exact ⟨c, rfl⟩

end Lookup

/-! ## Functions -/

namespace Logic

theorem choose_cases (condition yes no : FormulaValue) :
    (∃ c, choose condition yes no = .scalar c) ∨ choose condition yes no = yes ∨
      choose condition yes no = no := by
  unfold choose
  split
  · exact .inr (.inl rfl)
  · exact .inr (.inr rfl)
  · exact .inl ⟨_, rfl⟩

theorem orElse_cases (v fallback : FormulaValue) :
    orElse v fallback = v ∨ orElse v fallback = fallback := by
  unfold orElse
  split
  · exact .inr rfl
  · exact .inl rfl

end Logic

namespace Arity
variable {n k : Nat}

theorem allows_exactly : (exactly n).Allows k ↔ k = n := by
  simp only [exactly, Allows, Option.mem_def, Option.some.injEq, forall_eq']
  omega

theorem allows_between : (between n (n + 1)).Allows k ↔ k = n ∨ k = n + 1 := by
  simp only [between, Allows, Option.mem_def, Option.some.injEq, forall_eq']
  omega

end Arity

namespace Builtin

def looksUp : Builtin → Bool
  | vlookup | hlookup | index => true
  | _ => false

def indices : Builtin → List FormulaValue → List FormulaValue
  | vlookup, _ :: _ :: i :: _ => [i]
  | hlookup, _ :: _ :: i :: _ => [i]
  | index, _ :: places => places
  | _, _ => []

variable {f : Builtin} {args : List FormulaValue}

theorem run?_isSome_of_plain (plain : f.looksUp = false) (allowed : f.arity.Allows args.length) :
    (f.run? args).isSome = true := by
  cases f with
  | sum | average | min | max | count | and | or | concat => rfl
  | abs | not | len | upper | lower | year | month | day =>
      obtain ⟨x, rfl⟩ := List.length_eq_one_iff.1 (Arity.allows_exactly.1 allowed)
      rfl
  | round | iferror | days | edate =>
      obtain ⟨x, y, rfl⟩ := List.length_eq_two.1 (Arity.allows_exactly.1 allowed)
      rfl
  | date =>
      obtain ⟨y, m, d, rfl⟩ := List.length_eq_three.1 (Arity.allows_exactly.1 allowed)
      rfl
  | left | right =>
      rcases Arity.allows_between.1 allowed with one | two
      · obtain ⟨s, rfl⟩ := List.length_eq_one_iff.1 one
        rfl
      · obtain ⟨s, n, rfl⟩ := List.length_eq_two.1 two
        rfl
  | ifElse | matchKey =>
      rcases Arity.allows_between.1 allowed with two | three
      · obtain ⟨x, y, rfl⟩ := List.length_eq_two.1 two
        rfl
      · obtain ⟨x, y, z, rfl⟩ := List.length_eq_three.1 three
        rfl
  | index | vlookup | hlookup => cases plain

theorem run?_isSome (allowed : f.arity.Allows args.length)
    (rectangular : ∀ v ∈ args, v.Rectangular) (numeric : ∀ v ∈ f.indices args, v.Numeric) :
    (f.run? args).isSome = true := by
  cases f with
  | index =>
      rcases Arity.allows_between.1 allowed with two | three
      · obtain ⟨table, i, rfl⟩ := List.length_eq_two.1 two
        exact Lookup.index_isSome (numeric i (by simp [indices])) nofun
      · obtain ⟨table, i, j, rfl⟩ := List.length_eq_three.1 three
        refine Lookup.index_isSome (numeric i (by simp [indices])) ?_
        rintro _ ⟨⟩
        exact numeric j (by simp [indices])
  | vlookup =>
      rcases Arity.allows_between.1 allowed with three | four
      · obtain ⟨key, table, i, rfl⟩ := List.length_eq_three.1 three
        exact Lookup.vertical_isSome (rectangular table (by simp)) (numeric i (by simp [indices]))
      · obtain ⟨key, table, i, mode, rfl⟩ := List.length_eq_four.1 four
        exact Lookup.vertical_isSome (rectangular table (by simp)) (numeric i (by simp [indices]))
  | hlookup =>
      rcases Arity.allows_between.1 allowed with three | four
      · obtain ⟨key, table, i, rfl⟩ := List.length_eq_three.1 three
        exact Lookup.horizontal_isSome (rectangular table (by simp)) (numeric i (by simp [indices]))
      · obtain ⟨key, table, i, mode, rfl⟩ := List.length_eq_four.1 four
        exact Lookup.horizontal_isSome (rectangular table (by simp)) (numeric i (by simp [indices]))
  | _ => exact run?_isSome_of_plain rfl allowed

theorem call_of_scalars (policy : f.policy = .scalars) (noError : ∀ v ∈ args, v.errorCode? = none) :
    f.call args = f.run? args := by
  rw [call, policy, ErrorPolicy.firstError?, List.findSome?_eq_none_iff.2 noError]

theorem run?_of_call_eq_none (dies : f.call args = none) : f.run? args = none := by
  unfold call at dies
  split at dies
  · cases dies
  · exact dies

theorem scalar_or_mem_of_run? {w : FormulaValue} (run : f.run? args = some w) :
    (∃ c, w = .scalar c) ∨ w ∈ args := by
  revert run
  fun_cases f.run? args <;> intro run
  all_goals try first
    | exact .inl (FormulaValue.scalar_of_answer run)
    | exact .inl (Lookup.scalar_of_answerAt run)
  -- What is left selects one of its arguments.
  all_goals cases run
  · rename_i condition yes
    rcases Logic.choose_cases condition yes (.boolean false) with scalar | same | same
    · exact .inl scalar
    · rw [same]
      exact .inr (by simp)
    · rw [same]
      exact .inl ⟨.boolean false, rfl⟩
  · rename_i condition yes no
    rcases Logic.choose_cases condition yes no with scalar | same | same
    · exact .inl scalar
    · rw [same]
      exact .inr (by simp)
    · rw [same]
      exact .inr (by simp)
  · rename_i v fallback
    rcases Logic.orElse_cases v fallback with same | same
    · rw [same]
      exact .inr (by simp)
    · rw [same]
      exact .inr (by simp)

theorem call_rectangular (rectangular : ∀ v ∈ args, v.Rectangular) {w : FormulaValue}
    (called : f.call args = some w) : w.Rectangular := by
  unfold call at called
  split at called
  · cases called
    exact FormulaValue.rectangular_scalar _
  · rcases scalar_or_mem_of_run? called with ⟨c, rfl⟩ | mem
    · exact FormulaValue.rectangular_scalar c
    · exact rectangular w mem

end Builtin

/-! ## Expressions -/

theorem BinaryOp.apply_rectangular (op : BinaryOp) (v w : FormulaValue) :
    (op.apply v w).Rectangular := by
  obtain ⟨c, same⟩ := FormulaValue.scalar_of_answer (f := id) (congrArg some (Eq.refl (op.apply v w)))
  rw [same]
  exact FormulaValue.rectangular_scalar c

theorem FormulaValue.negate_rectangular (v : FormulaValue) : v.negate.Rectangular := by
  obtain ⟨c, same⟩ := FormulaValue.scalar_of_answer (f := CellValue.number) (congrArg some (Eq.refl v.negate))
  rw [same]
  exact FormulaValue.rectangular_scalar c

theorem CellRange.length_rows_pos (r : CellRange) : 0 < r.rows.length := by
  rw [rows, List.length_range']
  exact Nat.succ_pos _

theorem CellRange.length_columns_pos (r : CellRange) : 0 < r.columns.length := by
  rw [columns, List.length_range']
  exact Nat.succ_pos _

namespace Expr

section
variable {limits : Limits} {read : Position → Reading CellValue}

theorem eval_range_rectangular {r : CellRange} {v : FormulaValue}
    (value : (range r).eval limits read = .ok v) : v.Rectangular := by
  rcases eval_range_eq_ok.1 value with ⟨_, rfl⟩ | ⟨r', _, rows, cells, rfl⟩
  · exact FormulaValue.rectangular_scalar .empty
  · refine ⟨fun none => ?_, r'.columns.length, r'.length_columns_pos, fun line mem => ?_⟩
    · have same := cells.length_eq
      have positive := r'.length_rows_pos
      rw [show rows = [] from none, List.length_nil] at same
      omega
    · obtain ⟨row, _, across⟩ := exists_of_forall₂ cells.flip mem
      exact across.length_eq.symm

theorem WellFormed.rectangular {e : Expr} (h : e.WellFormed) {v : FormulaValue}
    (value : e.eval limits read = .ok v) : v.Rectangular := by
  induction h generalizing v with
  | number | text | boolean | error =>
      rw [eval] at value
      cases value
      exact FormulaValue.rectangular_scalar _
  | cell =>
      rw [eval, map_eq_ok] at value
      obtain ⟨c, _, rfl⟩ := value
      exact FormulaValue.rectangular_scalar c
  | range => exact eval_range_rectangular value
  | @binary op =>
      obtain ⟨a, b, _, _, rfl⟩ := eval_binary_eq_ok.1 value
      exact op.apply_rectangular a b
  | negate =>
      obtain ⟨a, _, rfl⟩ := eval_negate_eq_ok.1 value
      exact a.negate_rectangular
  | call _ _ ih =>
      rcases eval_call_eq_ok.1 value with ⟨_, rfl⟩ | ⟨f, vs, _, _, values, called⟩
      · exact FormulaValue.rectangular_scalar _
      · refine f.call_rectangular (fun w mem => ?_) called
        obtain ⟨a, argument, computed⟩ := exists_of_forall₂ values.flip mem
        exact ih a argument computed

theorem rectangular_of_evalArgs {args : List Expr} (h : ∀ a ∈ args, a.WellFormed) {vs : List FormulaValue}
    (values : evalArgs limits read args = .ok vs) : ∀ v ∈ vs, v.Rectangular := by
  intro v mem
  obtain ⟨a, argument, value⟩ := exists_of_forall₂ (evalArgs_eq_ok.1 values).flip mem
  exact (h a argument).rectangular value

end

def Accepted (e : Expr) : Prop :=
  ∃ text parsed edits, parseFormula text = .ok parsed ∧ e = parsed.afterEdits edits

theorem Accepted.wellFormed {e : Expr} (h : e.Accepted) : e.WellFormed := by
  obtain ⟨_, _, edits, parsed, rfl⟩ := h
  exact ((wellFormed_of_parse parsed).afterEdits edits).1

/-- Evaluation comes upon a lookup with an index that is not a number, in the expression or in a
pending formula that is evaluated on the way. -/
inductive MeetsNaN (r : Resolver) : List Position → Expr → Prop
  | here {visiting : List Position} {e : Expr} {function : String} {args : List Expr} {f : Builtin}
      {vs : List FormulaValue} {v : FormulaValue} : Occurs (.call function args) e →
      Builtin.ofName? function = some f → evalArgs r.limits (r.read visiting) args = .ok vs →
      v ∈ f.indices vs → ¬ v.Numeric → MeetsNaN r visiting e
  | pending {visiting : List Position} {e g : Expr} {p : Position} : e.Reads r.limits p →
      r.lookup p = .pending g → ¬ p ∈ visiting → MeetsNaN r (p :: visiting) g → MeetsNaN r visiting e

variable {r : Resolver} {visiting : List Position}

theorem WellFormed.meetsNaN {e : Expr} (h : e.WellFormed)
    (cells : ∀ p, r.read visiting p = .error .crash →
      ∃ g, r.lookup p = .pending g ∧ ¬ p ∈ visiting ∧ MeetsNaN r (p :: visiting) g)
    (stops : e.Stops r.limits (r.read visiting) .crash) : MeetsNaN r visiting e := by
  cases stops with
  | reading reads dies =>
      obtain ⟨g, found, fresh, meets⟩ := cells _ dies
      exact .pending reads found fresh meets
  | @unanswered function args f vs occurs named allowed values dies =>
      have unanswered := f.run?_of_call_eq_none dies
      by_contra numeric
      have numbers : ∀ v ∈ f.indices vs, v.Numeric := by
        intro v mem
        by_contra nan
        exact numeric (.here occurs named values mem nan)
      have count := (evalArgs_eq_ok.1 values).length_eq
      cases occurs.wellFormed h with
      | @call g _ _ wellFormed =>
          have answered := f.run?_isSome (count ▸ allowed) (rectangular_of_evalArgs wellFormed values) numbers
          rw [unanswered] at answered
          cases answered

end Expr

namespace Resolver
variable {r : Resolver}

theorem read_total (pending : ∀ p e, r.lookup p = .pending e → e.WellFormed) (visiting : List Position)
    (p : Position) : ∃ v, r.read visiting p = .ofOption v := by
  fun_induction r.read visiting p with
  | case1 visiting p v settled => exact ⟨some v, rfl⟩
  | case2 visiting p e found entered => exact ⟨some (.error .circular), rfl⟩
  | case3 visiting p e found fresh less ih =>
      obtain ⟨v, value⟩ := (pending p e found).eval_total ih
      refine ⟨v.map FormulaValue.toCell, ?_⟩
      rw [value]
      cases v <;> rfl

theorem meetsNaN_of_read (pending : ∀ p e, r.lookup p = .pending e → e.WellFormed)
    {visiting : List Position} {p : Position} (dies : r.read visiting p = .error .crash) :
    ∃ g, r.lookup p = .pending g ∧ ¬ p ∈ visiting ∧ Expr.MeetsNaN r (p :: visiting) g := by
  fun_induction r.read visiting p with
  | case1 => cases dies
  | case2 => cases dies
  | case3 visiting p e found fresh less ih =>
      refine ⟨e, found, fresh, (pending p e found).meetsNaN (fun q => ih q) ?_⟩
      exact Expr.eval_eq_error e (map_eq_error.1 dies)

end Resolver

theorem Expr.WellFormed.evaluate_total {r : Resolver}
    (pending : ∀ p e, r.lookup p = .pending e → e.WellFormed) (visiting : List Position) {e : Expr}
    (h : e.WellFormed) :
    (∃ v, evaluate r visiting e = .ok v ∧ v.Rectangular) ∨
      (evaluate r visiting e = .error .crash ∧ e.MeetsNaN r visiting) := by
  cases value : evaluate r visiting e with
  | ok v => exact .inl ⟨v, rfl, h.rectangular value⟩
  | error halt =>
      have stops := Expr.eval_eq_error e value
      obtain rfl := h.not_refused (Resolver.read_total pending visiting) stops
      exact .inr ⟨rfl, h.meetsNaN (fun p => Resolver.meetsNaN_of_read pending) stops⟩

namespace Resolver

def picked : Expr :=
  .call "INDEX" [.range (.between { row := 0, column := 0 } { row := 1, column := 1 }),
    .cell { row := 0, column := 1 }]

def pickedFromItself : Resolver where
  limits := { rows := 2, columns := 2 }
  lookup p :=
    if p = ⟨0, 0⟩ then .pending picked else .settled (if p = ⟨0, 1⟩ then .number 2 else .empty)
  finite := by
    refine ⟨[⟨0, 0⟩], fun p e pending => ?_⟩
    split at pending
    · rename_i same
      exact List.mem_singleton.2 same
    · cases pending

theorem picked_numeric {visiting : List Position} {e : Expr} (h : e.MeetsNaN pickedFromItself visiting) :
    ∃ args function, Expr.Occurs (.call function args) e ∧ e ≠ picked := by
  induction h with
  | @here visiting e function args f vs v occurs named values mem nan =>
      refine ⟨args, function, occurs, ?_⟩
      rintro rfl
      cases occurs with
      | argument inArgs inner =>
          rcases List.mem_cons.1 inArgs with rfl | inArgs
          · cases inner
          · rw [List.mem_singleton.1 inArgs] at inner
            cases inner
      | here =>
          rw [show Builtin.ofName? "INDEX" = some .index from Builtin.ofName_name .index] at named
          cases named
          obtain _ | ⟨_, _ | ⟨index, _ | _⟩⟩ := Expr.evalArgs_eq_ok.1 values
          have two : pickedFromItself.read visiting ⟨0, 1⟩ = .ok (.number 2) := read_settled rfl visiting
          rw [Expr.eval, show CellRef.toPosition { row := 0, column := 1 } = ⟨0, 1⟩ from rfl, two] at index
          cases index
          obtain rfl := List.mem_singleton.1 mem
          refine nan fun x number => ?_
          cases number
          decide +kernel
  | pending _ found _ _ ih =>
      unfold pickedFromItself at found
      dsimp only at found
      split at found
      · cases found
        obtain ⟨_, _, _, other⟩ := ih
        exact absurd rfl other
      · cases found

end Resolver

end Spreadsheet
