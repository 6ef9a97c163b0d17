import Spreadsheet.Proofs.Eval.Locality

namespace Spreadsheet

theorem mapM_eq_ok {ε α β : Type} {f : α → Except ε β} {xs : List α} {ys : List β} :
    xs.mapM f = .ok ys ↔ List.Forall₂ (fun x y => f x = .ok y) xs ys := by
  induction xs generalizing ys with
  | nil =>
      rw [List.mapM_nil, List.forall₂_nil_left_iff]
      show Except.ok [] = Except.ok ys ↔ _
      rw [Except.ok.injEq, eq_comm]
  | cons x xs ih =>
      rw [List.mapM_cons, bind_eq_ok]
      constructor
      · rintro ⟨y, first, others⟩
        obtain ⟨ys', rest, same⟩ := bind_eq_ok.1 others
        cases same
        exact .cons first (ih.1 rest)
      · rintro (_ | ⟨first, rest⟩)
        exact ⟨_, first, bind_eq_ok.2 ⟨_, ih.2 rest, rfl⟩⟩

theorem exists_of_forall₂ {α β : Type} {R : α → β → Prop} {xs : List α} {ys : List β}
    (h : List.Forall₂ R xs ys) {x : α} (mem : x ∈ xs) : ∃ y ∈ ys, R x y := by
  induction h with
  | nil => cases mem
  | cons first _ ih =>
      rcases List.mem_cons.1 mem with rfl | later
      · exact ⟨_, List.mem_cons_self, first⟩
      · obtain ⟨y, mem', related⟩ := ih later
        exact ⟨y, List.mem_cons_of_mem _ mem', related⟩

namespace Expr

inductive Occurs (x : Expr) : Expr → Prop
  | here : Occurs x x
  | left {op : BinaryOp} {left right : Expr} : Occurs x left → Occurs x (.binary op left right)
  | right {op : BinaryOp} {left right : Expr} : Occurs x right → Occurs x (.binary op left right)
  | negated {e : Expr} : Occurs x e → Occurs x (.negate e)
  | argument {function : String} {args : List Expr} {a : Expr} :
      a ∈ args → Occurs x a → Occurs x (.call function args)

theorem Occurs.trans {x y e : Expr} (h : Occurs x y) (h' : Occurs y e) : Occurs x e := by
  induction h' with
  | here => exact h
  | left _ ih => exact .left ih
  | right _ ih => exact .right ih
  | negated _ ih => exact .negated ih
  | argument mem _ ih => exact .argument mem ih

theorem Occurs.references {x e : Expr} (h : Occurs x e) {r : CellRange} (refers : r ∈ x.references) :
    r ∈ e.references := by
  induction h with
  | here => exact refers
  | left _ ih =>
      rw [Expr.references]
      exact List.mem_append_left _ ih
  | right _ ih =>
      rw [Expr.references]
      exact List.mem_append_right _ ih
  | negated _ ih =>
      rw [Expr.references]
      exact ih
  | argument mem _ ih =>
      rw [Expr.references]
      exact mem_argReferences.2 ⟨_, mem, ih⟩

theorem Occurs.wellFormed {x e : Expr} (h : Occurs x e) (well : e.WellFormed) : x.WellFormed := by
  induction h with
  | here => exact well
  | left _ ih =>
      cases well with
      | binary left _ => exact ih left
  | right _ ih =>
      cases well with
      | binary _ right => exact ih right
  | negated _ ih =>
      cases well with
      | negate _ inner => exact ih inner
  | argument mem _ ih =>
      cases well with
      | call _ all => exact ih (all _ mem)

section
variable {limits : Limits} {read : Position → Reading CellValue}

theorem evalArgs_eq_ok {args : List Expr} {vs : List FormulaValue} :
    evalArgs limits read args = .ok vs ↔
      List.Forall₂ (fun e v => e.eval limits read = .ok v) args vs := by
  induction args generalizing vs with
  | nil =>
      rw [evalArgs, List.forall₂_nil_left_iff, Except.ok.injEq, eq_comm]
  | cons e rest ih =>
      rw [evalArgs, bind_eq_ok]
      constructor
      · rintro ⟨v, first, others⟩
        obtain ⟨vs', values, same⟩ := bind_eq_ok.1 others
        cases same
        exact .cons first (ih.1 values)
      · rintro (_ | ⟨first, values⟩)
        exact ⟨_, first, bind_eq_ok.2 ⟨_, ih.2 values, rfl⟩⟩

theorem eval_binary_eq_ok {op : BinaryOp} {left right : Expr} {v : FormulaValue} :
    (binary op left right).eval limits read = .ok v ↔ ∃ a b,
      left.eval limits read = .ok a ∧ right.eval limits read = .ok b ∧ op.apply a b = v := by
  rw [eval, bind_eq_ok]
  constructor
  · rintro ⟨a, first, rest⟩
    obtain ⟨b, second, same⟩ := bind_eq_ok.1 rest
    exact ⟨a, b, first, second, Except.ok.inj same⟩
  · rintro ⟨a, b, first, second, rfl⟩
    exact ⟨a, first, bind_eq_ok.2 ⟨b, second, rfl⟩⟩

theorem eval_negate_eq_ok {e : Expr} {v : FormulaValue} :
    (negate e).eval limits read = .ok v ↔ ∃ a, e.eval limits read = .ok a ∧ a.negate = v := by
  rw [eval, bind_eq_ok]
  constructor
  · rintro ⟨a, value, same⟩
    exact ⟨a, value, Except.ok.inj same⟩
  · rintro ⟨a, value, rfl⟩
    exact ⟨a, value, rfl⟩

theorem eval_call_eq_ok {function : String} {args : List Expr} {v : FormulaValue} :
    (call function args).eval limits read = .ok v ↔
      (Builtin.ofName? function = none ∧ v = .error .unknownName) ∨
      ∃ f vs, Builtin.ofName? function = some f ∧ f.arity.Allows args.length ∧
        List.Forall₂ (fun e v => e.eval limits read = .ok v) args vs ∧ f.call vs = some v := by
  rw [eval]
  cases Builtin.ofName? function with
  | none => simp [eq_comm]
  | some f =>
      by_cases allowed : f.arity.Allows args.length
      · simp [allowed, bind_eq_ok, evalArgs_eq_ok, ofOption_eq_ok]
      · simp [allowed]

theorem eval_call_of_args {function : String} {args : List Expr} {f : Builtin} {vs : List FormulaValue}
    (named : Builtin.ofName? function = some f) (allowed : f.arity.Allows args.length)
    (values : evalArgs limits read args = .ok vs) :
    (call function args).eval limits read = .ofOption (f.call vs) := by
  rw [eval, named]
  dsimp only
  rw [if_pos allowed, values]
  rfl

theorem eval_range_eq_ok {r : CellRange} {v : FormulaValue} :
    (range r).eval limits read = .ok v ↔
      (r.clamped limits = none ∧ .table [[.empty]] = v) ∨
      ∃ r', r.clamped limits = some r' ∧ ∃ rows,
        List.Forall₂ (fun row cells =>
          List.Forall₂ (fun column c => read ⟨row, column⟩ = .ok c) r'.columns cells) r'.rows rows ∧
        .table rows = v := by
  rw [eval, evalRange]
  cases r.clamped limits with
  | none => simp
  | some r' => simp [map_eq_ok, mapM_eq_ok]

/-! ## Expressions without a value -/

theorem Occurs.reads {x e : Expr} (h : Occurs x e) {p : Position} (reads : x.Reads limits p) :
    e.Reads limits p := by
  induction h with
  | here => exact reads
  | left _ ih => exact .left ih
  | right _ ih => exact .right ih
  | negated _ ih => exact .negated ih
  | argument mem _ ih => exact .argument mem ih

inductive Stops (limits : Limits) (read : Position → Reading CellValue) (e : Expr) :
    Halt FormulaFault → Prop
  | reading {p : Position} {halt : Halt FormulaFault} : e.Reads limits p → read p = .error halt →
      Stops limits read e halt
  | miscounted {function : String} {args : List Expr} {f : Builtin} : Occurs (.call function args) e →
      Builtin.ofName? function = some f → ¬ f.arity.Allows args.length →
      Stops limits read e (.fault (.argumentCount f args.length))
  | unanswered {function : String} {args : List Expr} {f : Builtin} {vs : List FormulaValue} :
      Occurs (.call function args) e → Builtin.ofName? function = some f → f.arity.Allows args.length →
      evalArgs limits read args = .ok vs → f.call vs = none → Stops limits read e .crash

variable {halt : Halt FormulaFault}

theorem Stops.occurs {x e : Expr} (h : x.Stops limits read halt) (occurs : Occurs x e) :
    e.Stops limits read halt := by
  cases h with
  | reading reads stops => exact .reading (occurs.reads reads) stops
  | miscounted call named count => exact .miscounted (call.trans occurs) named count
  | unanswered call named allowed values dies =>
      exact .unanswered (call.trans occurs) named allowed values dies

theorem evalRange_eq_error {r : CellRange} (h : evalRange limits read r = .error halt) :
    (range r).Stops limits read halt := by
  unfold evalRange at h
  cases clamped : r.clamped limits with
  | none =>
      rw [clamped] at h
      cases h
  | some r' =>
      rw [clamped] at h
      obtain ⟨row, inRows, line⟩ := mapM_eq_error (map_eq_error.1 h)
      obtain ⟨column, inColumns, stops⟩ := mapM_eq_error line
      have listed : (⟨row, column⟩ : Position) ∈ r'.positions :=
        CellRange.mem_positions_iff_lines.2 ⟨inRows, inColumns⟩
      obtain ⟨contains, inside⟩ :=
        (CellRange.contains_clamped clamped).1 (CellRange.mem_positions.1 listed)
      exact .reading (.range contains inside) stops

mutual

theorem eval_eq_error : (e : Expr) → e.eval limits read = .error halt → e.Stops limits read halt
  | .number _, h | .text _, h | .boolean _, h | .error _, h => by
      rw [eval] at h
      cases h
  | .cell ref, h => by
      rw [eval, map_eq_error] at h
      exact .reading (.cell ref) h
  | .range r, h => by
      rw [eval] at h
      exact evalRange_eq_error h
  | .binary op left right, h => by
      rw [eval, bind_eq_error] at h
      rcases h with first | ⟨v, _, rest⟩
      · exact (eval_eq_error left first).occurs (.left .here)
      · rcases bind_eq_error.1 rest with second | ⟨w, _, applied⟩
        · exact (eval_eq_error right second).occurs (.right .here)
        · cases applied
  | .negate e, h => by
      rw [eval, bind_eq_error] at h
      rcases h with inner | ⟨v, _, negated⟩
      · exact (eval_eq_error e inner).occurs (.negated .here)
      · cases negated
  | .call function args, h => by
      rw [eval] at h
      cases named : Builtin.ofName? function with
      | none =>
          rw [named] at h
          cases h
      | some f =>
          rw [named] at h
          dsimp only at h
          split at h
          · rename_i allowed
            rcases bind_eq_error.1 h with stopped | ⟨vs, values, dies⟩
            · obtain ⟨a, mem, stops⟩ := evalArgs_eq_error args stopped
              exact stops.occurs (.argument mem .here)
            · cases answer : f.call vs with
              | none =>
                  rw [answer] at dies
                  cases dies
                  exact .unanswered .here named allowed values answer
              | some v =>
                  rw [answer] at dies
                  cases dies
          · rename_i count
            cases h
            exact .miscounted .here named count

theorem evalArgs_eq_error : (args : List Expr) → evalArgs limits read args = .error halt →
    ∃ a ∈ args, a.Stops limits read halt
  | [], h => by
      rw [evalArgs] at h
      cases h
  | e :: rest, h => by
      rw [evalArgs, bind_eq_error] at h
      rcases h with first | ⟨v, _, later⟩
      · exact ⟨e, List.mem_cons_self, eval_eq_error e first⟩
      · rcases bind_eq_error.1 later with others | ⟨vs, _, collected⟩
        · obtain ⟨a, mem, stops⟩ := evalArgs_eq_error rest others
          exact ⟨a, List.mem_cons_of_mem e mem, stops⟩
        · cases collected

end

theorem WellFormed.not_refused {e : Expr} (h : e.WellFormed) (readable : ∀ p, ∃ v, read p = .ofOption v)
    (stops : e.Stops limits read halt) : halt = .crash := by
  cases stops with
  | @reading p _ _ stops =>
      obtain ⟨v, same⟩ := readable p
      rw [same] at stops
      cases v with
      | none =>
          cases stops
          rfl
      | some v => cases stops
  | miscounted occurs named count =>
      cases occurs.wellFormed h with
      | @call f _ allowed _ =>
          rw [f.ofName_name] at named
          cases named
          exact absurd allowed count
  | unanswered => rfl

theorem WellFormed.eval_total {e : Expr} (h : e.WellFormed) (readable : ∀ p, ∃ v, read p = .ofOption v) :
    ∃ v, e.eval limits read = .ofOption v := by
  cases value : e.eval limits read with
  | ok v => exact ⟨some v, rfl⟩
  | error halt =>
      obtain rfl := h.not_refused readable (eval_eq_error e value)
      exact ⟨none, rfl⟩

end

end Expr

end Spreadsheet
