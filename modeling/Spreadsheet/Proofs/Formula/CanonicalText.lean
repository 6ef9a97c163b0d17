import Spreadsheet.Proofs.Formula.Lexemes
import Spreadsheet.Proofs.Formula.WellFormed

/-!
# Canonical text read back

`Expr.runsIntoSlash` finds the one place where canonical text goes wrong: an error code with a slash
right behind it. `Expr.reread` is the tree with every number as its text reads, and `Expr.unreadable`
says that some number has a text that reads as none. `WellFormed.rendered` says, tree by tree, that
the text leads to a fault in these two cases and is otherwise cut into tokens that derive the reread
tree.
-/

namespace Spreadsheet
open Lexer
open Spreadsheet.Parser (negated parseRef)

namespace Expr

mutual

/-- Some error code in the canonical text stands right before a slash, where `slash` says whether
one follows the whole text. -/
def runsIntoSlash (slash : Bool) : Expr → Bool
  | error _ => slash
  | binary op left right =>
    runsIntoSlash (!decide (left.level < op.level) && op == .divide) left ||
      runsIntoSlash (!decide (right.level ≤ op.level) && slash) right
  | negate e => runsIntoSlash (!decide (e.level < signLevel) && slash) e
  | call _ args => anyRunsIntoSlash args
  | _ => false

def anyRunsIntoSlash : List Expr → Bool
  | [] => false
  | e :: rest => runsIntoSlash false e || anyRunsIntoSlash rest

end

mutual

def numbers : Expr → List Float
  | number x => [x]
  | binary _ left right => numbers left ++ numbers right
  | negate e => numbers e
  | call _ args => argNumbers args
  | _ => []

def argNumbers : List Expr → List Float
  | [] => []
  | e :: rest => numbers e ++ argNumbers rest

end

theorem mem_argNumbers {x : Float} {args : List Expr} :
    x ∈ argNumbers args ↔ ∃ e ∈ args, x ∈ e.numbers := by
  induction args with
  | nil => simp [argNumbers]
  | cons first rest ih => simp only [argNumbers, List.mem_append, ih, List.mem_cons, exists_eq_or_imp]

def unreadable (e : Expr) : Bool := e.numbers.any Decimal.unreadable

mutual

def reread : Expr → Expr
  | number x => number (Decimal.readBack x)
  | binary op left right => binary op (reread left) (reread right)
  | negate e => negate (reread e)
  | call function args => call function (rereadArgs args)
  | e => e

def rereadArgs : List Expr → List Expr
  | [] => []
  | e :: rest => reread e :: rereadArgs rest

end

theorem reread_ne_number {e : Expr} (other : ∀ x, e ≠ .number x) (x : Float) :
    e.reread ≠ .number x := by
  cases e with
  | number y => exact absurd rfl (other y)
  | text | boolean | error | cell | range | binary | negate | call => simp [reread]

mutual

theorem references_reread : (e : Expr) → e.reread.references = e.references
  | .number _ | .text _ | .boolean _ | .error _ | .cell _ | .range _ => by simp only [reread, references]
  | .binary op left right => by
      rw [reread, references, references, references_reread left, references_reread right]
  | .negate e => by rw [reread, references, references, references_reread e]
  | .call function args => by rw [reread, references, references, argReferences_reread args]

theorem argReferences_reread : (args : List Expr) → argReferences (rereadArgs args) = argReferences args
  | [] => by rw [rereadArgs]
  | e :: rest => by
      rw [rereadArgs, argReferences, argReferences, references_reread e, argReferences_reread rest]

end

mutual

theorem same_reread : (e : Expr) → (∀ x ∈ e.numbers, Decimal.ReadsBack x) → e.reread.same e = true
  | .number x, readsBack => by
      rw [reread, same]
      exact (readsBack x (by rw [numbers]; exact List.mem_cons_self)).readable.2
  | .text _, _ | .boolean _, _ | .error _, _ | .cell _, _ | .range _, _ => by simp [reread, same]
  | .binary op left right, readsBack => by
      rw [numbers] at readsBack
      have first := same_reread left fun x mem => readsBack x (List.mem_append_left _ mem)
      have second := same_reread right fun x mem => readsBack x (List.mem_append_right _ mem)
      simp [reread, same, first, second]
  | .negate e, readsBack => by
      rw [reread, same]
      exact same_reread e fun x mem => readsBack x (by rwa [numbers])
  | .call function args, readsBack => by
      have inside := sameAll_reread args fun x mem => readsBack x (by rwa [numbers])
      simp [reread, same, inside]

theorem sameAll_reread : (args : List Expr) → (∀ x ∈ argNumbers args, Decimal.ReadsBack x) →
    sameAll (rereadArgs args) args = true
  | [], _ => by simp [rereadArgs, sameAll]
  | e :: rest, readsBack => by
      rw [argNumbers] at readsBack
      have first := same_reread e fun x mem => readsBack x (List.mem_append_left _ mem)
      have others := sameAll_reread rest fun x mem => readsBack x (List.mem_append_right _ mem)
      simp [rereadArgs, sameAll, first, others]

end

theorem level_bounds (e : Expr) : 1 ≤ e.level ∧ e.level ≤ 7 := by
  have tightest : 1 ≤ 7 ∧ 7 ≤ 7 := by decide
  have sign : 1 ≤ 6 ∧ 6 ≤ 7 := by decide
  cases e with
  | binary op left right =>
      show 1 ≤ op.level ∧ op.level ≤ 7
      cases op <;> decide
  | number x =>
      rw [level]
      split
      · exact sign
      · exact tightest
  | negate => exact sign
  | text | boolean | error | cell | range | call => exact tightest

/-! ## Where operands begin and end -/

structure Operand (cs : List Char) : Prop where
  nonempty : cs ≠ []
  head : ∀ c ∈ cs.head?, c ≠ '=' ∧ c ≠ '>'
  last : ∀ c ∈ cs.getLast?, Text.isBlank c = false

theorem Operand.of_solid {cs : List Char} (nonempty : cs ≠ [])
    (head : ∀ c ∈ cs.head?, c ≠ '=' ∧ c ≠ '>') (solid : ∀ c ∈ cs, Text.isBlank c = false) :
    Operand cs :=
  ⟨nonempty, head, fun c mem => solid c (List.mem_of_getLast? mem)⟩

theorem Operand.append {cs cs' : List Char} (h : Operand cs) (h' : Operand cs')
    (middle : List Char) : Operand (cs ++ middle ++ cs') := by
  obtain ⟨c, rest, rfl⟩ := List.exists_cons_of_ne_nil h.nonempty
  refine ⟨by simp, fun d mem => h.head d mem, fun d mem => h'.last d ?_⟩
  rw [List.getLast?_append_of_ne_nil _ h'.nonempty] at mem
  exact mem

theorem Operand.cons {c : Char} {cs : List Char} (h : Operand cs) (head : c ≠ '=' ∧ c ≠ '>') :
    Operand (c :: cs) := by
  refine ⟨by simp, fun d mem => ?_, fun d mem => h.last d ?_⟩
  · cases mem
    exact head
  · rw [← List.singleton_append, List.getLast?_append_of_ne_nil _ h.nonempty] at mem
    exact mem

theorem Operand.close {c c' : Char} (cs : List Char) (head : c ≠ '=' ∧ c ≠ '>')
    (last : Text.isBlank c' = false) : Operand (c :: cs ++ [c']) := by
  refine ⟨by simp, fun d mem => ?_, fun d mem => ?_⟩
  · cases mem
    exact head
  · rw [List.getLast?_append_of_ne_nil _ (by simp)] at mem
    cases mem
    exact last

theorem Operand.parenthesize {cs : List Char} (wanted : Bool) (h : Operand cs) :
    Operand (parenthesize wanted cs) := by
  cases wanted with
  | true => exact .close cs (by decide) (by decide)
  | false => exact h

theorem operand_plain {cs : List Char} (h : Decimal.Plain cs) : Operand cs := by
  obtain ⟨c, rest, eq, digit⟩ := h.head
  refine .of_solid (by simp [eq]) ?_ fun d mem => ?_
  · intro d mem
    rw [eq] at mem
    cases mem
    constructor
    · rintro rfl
      exact absurd digit (by decide)
    · rintro rfl
      exact absurd digit (by decide)
  · rcases h.mem mem with digit | rfl
    · exact Text.solid_of_isAlphanum (by simp [Char.isAlphanum, digit])
    · decide

theorem operand_ref (ref : CellRef) : Operand ref.write := by
  refine .of_solid ref.write_ne_nil (fun c mem => ?_) fun c mem => ?_
  · rcases CellRef.mem_write (List.mem_of_mem_head? mem) with alphanum | rfl
    · constructor
      · rintro rfl
        exact absurd alphanum (by decide)
      · rintro rfl
        exact absurd alphanum (by decide)
    · decide
  · rcases CellRef.mem_write mem with alphanum | rfl
    · exact Text.solid_of_isAlphanum alphanum
    · decide

theorem WellFormed.operand {e : Expr} (h : e.WellFormed) : Operand e.chars := by
  induction h with
  | @number x finite =>
      obtain ⟨cs, plain, text⟩ := Decimal.write_of_finite finite
      rw [chars, text]
      split
      · exact (operand_plain plain).cons (by decide)
      · exact operand_plain plain
  | text s =>
      rw [chars]
      exact .close _ (by decide) (by decide)
  | boolean b =>
      rw [chars]
      refine .of_solid (by cases b <;> decide) (forall_head_of_all ?_) (forall_of_all ?_)
      · cases b <;> decide
      · cases b <;> decide
  | error code =>
      rw [chars]
      refine .of_solid (by cases code <;> decide) (forall_head_of_all ?_) (forall_of_all ?_)
      · cases code <;> decide
      · cases code <;> decide
  | @cell ref _ =>
      rw [chars]
      exact operand_ref ref
  | @range r _ =>
      rw [chars, CellRange.write, ← List.singleton_append, ← List.append_assoc]
      exact (operand_ref r.first).append (operand_ref r.last) _
  | binary _ _ ihl ihr =>
      rw [chars]
      exact (ihl.parenthesize _).append (ihr.parenthesize _) _
  | negate _ _ ih =>
      rw [chars]
      exact (ih.parenthesize _).cons (by decide)
  | @call f args _ _ _ =>
      have head : ∀ c ∈ f.name.toList.head?, c ≠ '=' ∧ c ≠ '>' :=
        forall_head_of_all (by cases f <;> decide)
      have nonempty : f.name.toList ≠ [] := by
        cases f <;> decide
      obtain ⟨c, cs, name⟩ := List.exists_cons_of_ne_nil nonempty
      rw [chars, name]
      rw [name] at head
      exact .close (cs ++ '(' :: argChars args) (head c rfl) (by decide)

end Expr

/-! ## Texts and their tokens -/

namespace Lexer

def Cut (fault : Bool) (cs : List Char) (ts : List Token) (rest : List Char) : Prop :=
  if fault then Faults cs rest else Lexes cs ts rest

theorem Lexes.cut {cs rest : List Char} {ts : List Token} (h : Lexes cs ts rest) :
    Cut false cs ts rest := h

theorem Cut.append {fault fault' : Bool} {cs cs' rest : List Char} {ts ts' : List Token}
    (h : Cut fault cs ts (cs' ++ rest)) (h' : Cut fault' cs' ts' rest) :
    Cut (fault || fault') (cs ++ cs') (ts ++ ts') rest := by
  cases fault with
  | true => exact Faults.append h
  | false =>
      cases fault' with
      | true => exact Lexes.faults h h'
      | false => exact Lexes.append h h'

end Lexer

namespace Expr

/-- The text `cs` is a phrase of level `n` for `e` as it is reread, unless it is faulty; that may
depend on a slash behind it. -/
def Rendered (n : Nat) (cs : List Char) (e : Expr) (faulty : Bool → Bool) : Prop :=
  ∃ ts, Derives n ts e.reread ∧
    ∀ rest, Bounded rest → Cut (faulty (rest.head? == some '/')) cs ts rest

theorem primary_at_level {ts : List Token} {e' : Expr} (h : Derives 8 ts e') (e : Expr) :
    Derives e.level ts e' := by
  have levels := e.level_bounds
  exact h.looser (by omega) (by decide)

theorem Rendered.of_lexes {n : Nat} {cs : List Char} {ts : List Token} {e : Expr}
    (derives : Derives n ts e.reread) (lexes : ∀ rest, Bounded rest → Lexes cs ts rest) :
    Rendered n cs e fun _ => false :=
  ⟨ts, derives, fun rest bounded => (lexes rest bounded).cut⟩

theorem Rendered.parenthesize {cs : List Char} {e : Expr} {faulty : Bool → Bool} {n : Nat}
    (h : Rendered e.level cs e faulty) (wanted : Bool) (bound : n ≤ 7)
    (enough : wanted = false → n ≤ e.level) :
    Rendered n (parenthesize wanted cs) e fun slash => faulty (!wanted && slash) := by
  obtain ⟨ts, derives, cut⟩ := h
  have levels := e.level_bounds
  cases wanted with
  | false =>
      exact ⟨ts, derives.looser (enough rfl) (by omega), cut⟩
  | true =>
      have inner : Derives 1 ts e.reread := derives.looser levels.1 (by omega)
      refine ⟨.leftParen :: ts ++ [.rightParen], inner.paren.looser (by omega) (by omega), ?_⟩
      intro rest _
      have opening := lexes_symbol (c := '(') rfl (cs ++ [')'] ++ rest)
      have closing := lexes_symbol (c := ')') rfl rest
      have middle := cut ([')'] ++ rest) (bounded_cons (by decide))
      have whole := opening.cut.append (middle.append closing.cut)
      rw [Bool.or_false] at whole
      exact whole

theorem negated_eq {e : Expr} (other : ∀ x, e ≠ .number x) : negated e = .negate e := by
  cases e with
  | number x => exact absurd rfl (other x)
  | text | boolean | error | cell | range | binary | negate | call => rfl

abbrev Rendering (e : Expr) : Prop :=
  Rendered e.level e.chars e fun slash => e.runsIntoSlash slash || e.unreadable

theorem Rendering.negate {e : Expr} (h : Rendering e) (other : ∀ x, e ≠ .number x) :
    Rendering (.negate e) := by
  have enough : decide (e.level < signLevel) = false → signLevel ≤ e.level := by
    intro tight
    simpa using tight
  obtain ⟨ts, derives, cut⟩ :=
    Rendered.parenthesize h (decide (e.level < signLevel)) (by decide) enough
  refine ⟨.minus :: ts, ?_, fun rest bounded => ?_⟩
  · rw [reread, ← negated_eq (reread_ne_number other)]
    exact derives.minus
  · have sign := lexes_symbol (c := '-') rfl
      (Expr.parenthesize (decide (e.level < signLevel)) e.chars ++ rest)
    have whole := sign.cut.append (cut rest bounded)
    dsimp only
    rw [Expr.chars, Expr.runsIntoSlash]
    exact whole

theorem or_gather : ∀ a b c d : Bool, (a || c || (false || (b || d))) = (a || b || (c || d)) := by decide

theorem unreadable_binary (op : BinaryOp) (left right : Expr) :
    (binary op left right).unreadable = (left.unreadable || right.unreadable) := by
  unfold unreadable
  rw [numbers, List.any_append]

theorem Rendering.binary {op : BinaryOp} {left right : Expr} (hl : Rendering left)
    (hr : Rendering right) (operand : Operand right.chars) : Rendering (.binary op left right) := by
  have levels : 1 ≤ op.level ∧ op.level ≤ 5 := by
    cases op <;> decide
  obtain ⟨ts, derives, cut⟩ :=
    Rendered.parenthesize hl (n := op.level) (decide (left.level < op.level)) (by omega) (by simp)
  have loose : decide (right.level ≤ op.level) = false → op.level + 1 ≤ right.level := by
    intro above
    have := of_decide_eq_false above
    omega
  obtain ⟨ts', derives', cut'⟩ :=
    Rendered.parenthesize hr (n := op.level + 1) (decide (right.level ≤ op.level)) (by omega) loose
  refine ⟨ts ++ op.token :: ts', ?_, fun rest bounded => ?_⟩
  · rw [reread]
    exact .binary op.operatorAt_token derives derives'
  · have operand' := operand.parenthesize (decide (right.level ≤ op.level))
    have symbol : Lexes op.symbol.toList [op.token]
        (Expr.parenthesize (decide (right.level ≤ op.level)) right.chars ++ rest) := by
      refine lexes_operator op fun c mem => operand'.head c ?_
      rwa [List.head?_append_of_ne_nil _ operand'.nonempty] at mem
    have behind := symbol.cut.append (cut' rest bounded)
    obtain ⟨c, cs, text, closes, slash⟩ := symbol_head op
    have front := cut (op.symbol.toList ++
      Expr.parenthesize (decide (right.level ≤ op.level)) right.chars ++ rest) (by
        rw [text]
        exact bounded_cons closes)
    have next : ((op.symbol.toList ++ Expr.parenthesize (decide (right.level ≤ op.level)) right.chars ++
        rest).head? == some '/') = (op == .divide) := by
      rw [text, ← slash]
      rfl
    rw [next] at front
    have whole := front.append behind
    rw [or_gather] at whole
    dsimp only
    rw [Expr.chars, Expr.runsIntoSlash, unreadable_binary, List.append_assoc]
    exact whole

theorem argChars_cons (e : Expr) {args : List Expr} (more : args ≠ []) :
    argChars (e :: args) = e.chars ++ ',' :: argChars args := by
  cases args with
  | nil => exact absurd rfl more
  | cons => rw [argChars.eq_3 _ _ (by simp)]

theorem length_rereadArgs (args : List Expr) : (rereadArgs args).length = args.length := by
  induction args with
  | nil => rw [rereadArgs]
  | cons e rest ih => rw [rereadArgs, List.length_cons, List.length_cons, ih]

theorem length_of_trees {parts : List (List Token × Expr)} {args : List Expr}
    (trees : parts.map (·.2) = rereadArgs args) : parts.length = args.length := by
  rw [← length_rereadArgs, ← trees, List.length_map]

theorem tokens_ne_nil_of_trees {parts : List (List Token × Expr)} {args : List Expr}
    (trees : parts.map (·.2) = rereadArgs args) (some : args ≠ []) : parts.map (·.1) ≠ [] := by
  intro none
  rw [List.map_eq_nil_iff] at none
  have length := length_of_trees trees
  rw [none] at length
  exact some (List.eq_nil_of_length_eq_zero length.symm)

theorem rendered_args {args : List Expr} (h : ∀ a ∈ args, Rendering a) :
    ∃ parts : List (List Token × Expr), parts.map (·.2) = rereadArgs args ∧
      (∀ part ∈ parts, Derives 1 part.1 part.2) ∧
      ∀ rest, Cut (anyRunsIntoSlash args || (argNumbers args).any Decimal.unreadable) (argChars args)
        (commaJoined (parts.map (·.1))) (')' :: rest) := by
  induction args with
  | nil =>
      refine ⟨[], by rw [rereadArgs, List.map_nil], by simp, fun rest => ?_⟩
      rw [argChars]
      exact (lexes_nil _).cut
  | cons e args ih =>
      obtain ⟨ts, derives, cut⟩ := h e List.mem_cons_self
      have derives' : Derives 1 ts e.reread := by
        have levels := e.level_bounds
        exact derives.looser levels.1 (by omega)
      obtain ⟨parts, trees, derivesAll, cutRest⟩ := ih fun a mem => h a (List.mem_cons_of_mem _ mem)
      refine ⟨(ts, e.reread) :: parts, by rw [List.map_cons, trees, rereadArgs], ?_, fun rest => ?_⟩
      · intro part mem
        rcases List.mem_cons.1 mem with rfl | later
        · exact derives'
        · exact derivesAll part later
      · rw [anyRunsIntoSlash, argNumbers, List.any_append, List.map_cons]
        by_cases last : args = []
        · subst last
          obtain rfl : parts = [] := by
            rw [rereadArgs, List.map_eq_nil_iff] at trees
            exact trees
          have whole := cut (')' :: rest) (bounded_cons (by decide))
          rw [anyRunsIntoSlash, argNumbers, List.any_nil, Bool.or_false, Bool.or_false, argChars]
          exact whole
        · have more := tokens_ne_nil_of_trees trees last
          have front := cut ([','] ++ argChars args ++ ')' :: rest) (bounded_cons (by decide))
          have comma := lexes_symbol (c := ',') rfl (argChars args ++ ')' :: rest)
          have whole := front.append (comma.cut.append (cutRest rest))
          rw [or_gather] at whole
          rw [argChars_cons e last, commaJoined_cons more]
          exact whole

theorem Rendering.call {f : Builtin} {args : List Expr} (allowed : f.arity.Allows args.length)
    (h : ∀ a ∈ args, Rendering a) : Rendering (.call f.name args) := by
  obtain ⟨parts, trees, derives, cut⟩ := rendered_args h
  have length := length_of_trees trees
  have whole := Derives.call parts f.ofName_name (by rw [length]; exact allowed) derives
  rw [trees] at whole
  refine ⟨_, by rw [reread]; exact primary_at_level whole _, fun rest _ => ?_⟩
  have name := lexes_name f (argChars args ++ [')'] ++ rest)
  have opening := lexes_symbol (c := '(') rfl (argChars args ++ [')'] ++ rest)
  have closing := lexes_symbol (c := ')') rfl rest
  have inside := (cut rest).append closing.cut
  have text := name.cut.append (opening.cut.append inside)
  dsimp only
  rw [Bool.or_false] at text
  rw [Expr.chars, Expr.runsIntoSlash, unreadable, numbers, List.append_assoc]
  exact text

theorem Rendering.number {x : Float} (finite : x.isFinite = true) : Rendering (.number x) := by
  obtain ⟨cs, plain, text⟩ := Decimal.write_of_finite finite
  have level : (Expr.number x).level = if Decimal.signed x then signLevel else primaryLevel := rfl
  have faulty : (Expr.number x).unreadable = (Decimal.readFinite (Decimal.write x).toList).isNone := by
    rw [unreadable, numbers, List.any_cons, List.any_nil, Bool.or_false]
    rfl
  unfold Rendering Rendered
  rw [reread, Decimal.readBack, faulty, chars, text]
  cases sign : Decimal.signed x with
  | false =>
      rw [if_neg (by decide)]
      cases read : Decimal.readFinite cs with
      | none =>
          refine ⟨[.number x], primary_at_level (.number x) _, fun rest bounded => ?_⟩
          exact faults_number plain read bounded
      | some z =>
          refine ⟨[.number z], primary_at_level (.number z) _, fun rest bounded => ?_⟩
          exact lexes_number plain read bounded
  | true =>
      rw [if_pos rfl, Decimal.readFinite_minus plain]
      have minus := fun rest => lexes_symbol (c := '-') rfl (cs ++ rest)
      cases read : Decimal.readFinite cs with
      | none =>
          refine ⟨[.number x], primary_at_level (.number x) _, fun rest bounded => ?_⟩
          exact (minus rest).faults (faults_number plain read bounded)
      | some y =>
          have derives : Derives (Expr.number x).level [.minus, .number y] (.number (-y)) := by
            rw [level, sign]
            exact ((Derives.number y).looser (by decide) (by decide)).minus
          exact ⟨_, derives, fun rest bounded =>
            (minus rest).append (lexes_number plain read bounded)⟩

theorem parseRef_write {ref : CellRef} (h : ref.InBounds) :
    parseRef (String.ofList ref.write) = .ok ref := by
  rw [parseRef, String.toList_ofList, CellRef.parse_write h]
  rfl

theorem WellFormed.rendered {e : Expr} (h : e.WellFormed) : Rendering e := by
  induction h with
  | @number x finite => exact Rendering.number finite
  | text s =>
      refine Rendered.of_lexes (primary_at_level (.text s) _) ?_
      intro rest bounded
      rw [chars]
      exact lexes_text s fun quote => closers_not_quote '"' (bounded '"' quote) rfl
  | boolean b =>
      refine Rendered.of_lexes (primary_at_level (.boolean b) _) ?_
      intro rest bounded
      rw [chars]
      exact lexes_boolean b bounded
  | error code =>
      refine ⟨[.error code], primary_at_level (.error code) _, fun rest bounded => ?_⟩
      have numberless : (Expr.error code).unreadable = false := rfl
      dsimp only
      rw [chars, runsIntoSlash, numberless, Bool.or_false]
      by_cases slash : rest.head? = some '/'
      · rw [slash]
        exact faults_error code slash
      · have other : (rest.head? == some '/') = false := by simpa using slash
        rw [other]
        exact lexes_error code bounded slash
  | @cell ref bounds =>
      refine Rendered.of_lexes (primary_at_level (.cell (parseRef_write bounds)) _) ?_
      intro rest bounded
      rw [chars]
      exact lexes_cell ref bounded
  | @range r bounds =>
      have derives := Derives.range (Derives.cell (parseRef_write bounds.1)) (parseRef_write bounds.2)
      rw [CellRange.between_corners] at derives
      refine Rendered.of_lexes derives ?_
      intro rest bounded
      rw [chars, CellRange.write]
      have bounded' : Bounded (':' :: r.last.write ++ rest) := bounded_cons (by decide)
      have first := lexes_cell r.first bounded'
      have colon := lexes_symbol (c := ':') rfl (r.last.write ++ rest)
      exact first.append (colon.append (lexes_cell r.last bounded))
  | @binary op left right _ wf ihl ihr => exact Rendering.binary ihl ihr wf.operand
  | negate other _ ih => exact Rendering.negate ih other
  | @call f args allowed _ ih => exact Rendering.call allowed ih

theorem WellFormed.finite {e : Expr} (h : e.WellFormed) : ∀ x ∈ e.numbers, x.isFinite = true := by
  induction h with
  | number finite =>
      intro x mem
      rw [numbers, List.mem_singleton] at mem
      rw [mem]
      exact finite
  | text | boolean | error | cell | range => exact fun x mem => nomatch mem
  | binary _ _ ihl ihr =>
      intro x mem
      rw [numbers] at mem
      exact (List.mem_append.1 mem).elim (ihl x) (ihr x)
  | negate _ _ ih =>
      intro x mem
      rw [numbers] at mem
      exact ih x mem
  | call _ _ ih =>
      intro x mem
      rw [numbers] at mem
      obtain ⟨a, among, inside⟩ := mem_argNumbers.1 mem
      exact ih a among x inside

end Expr

end Spreadsheet
