import Spreadsheet.Proofs.Formula.Acceptance
import Spreadsheet.Proofs.Formula.RoundTrip

/-!
# Canonical text with its tokens apart

`Expr.pieces` is the canonical text cut into its tokens, and `Spaced` puts blanks between any two of
them. Nothing runs together then, so what is left of the way back to the tree is the agreement of
parentheses and levels: `WellFormed.spread` says, tree by tree, that the pieces are a phrase for it.
-/

namespace Spreadsheet
open Lexer
open Spreadsheet.Parser (negated)

def Gap (cs : List Char) : Prop := cs ≠ [] ∧ ∀ c ∈ cs, Text.isBlank c = true

inductive Spaced : List (List Char) → List Char → Prop
  | nil : Spaced [] []
  | last (piece : List Char) : Spaced [piece] piece
  | cons {piece gap next cs : List Char} {pieces : List (List Char)} :
      Gap gap → Spaced (next :: pieces) cs → Spaced (piece :: next :: pieces) (piece ++ gap ++ cs)

namespace Expr

def numberPieces : List Char → List (List Char)
  | '-' :: cs => [['-'], cs]
  | cs => [cs]

def parenthesizePieces (wanted : Bool) (pieces : List (List Char)) : List (List Char) :=
  if wanted then ['('] :: pieces ++ [[')']] else pieces

mutual

def pieces : Expr → List (List Char)
  | number x => numberPieces (Decimal.write x).toList
  | text s => [quoteText s]
  | boolean b => [(booleanText b).toList]
  | error code => [code.write.toList]
  | cell ref => [ref.write]
  | range r => [r.first.write, [':'], r.last.write]
  | binary op left right =>
    parenthesizePieces (left.level < op.level) (pieces left) ++ op.symbol.toList ::
      parenthesizePieces (right.level ≤ op.level) (pieces right)
  | negate e => ['-'] :: parenthesizePieces (e.level < signLevel) (pieces e)
  | call function args => function.toList :: ['('] :: argPieces args ++ [[')']]

def argPieces : List Expr → List (List Char)
  | [] => []
  | [e] => pieces e
  | e :: rest => pieces e ++ [','] :: argPieces rest

end

theorem argPieces_cons (e : Expr) {args : List Expr} (more : args ≠ []) :
    argPieces (e :: args) = e.pieces ++ [','] :: argPieces args := by
  cases args with
  | nil => exact absurd rfl more
  | cons => rw [argPieces.eq_3 _ _ (by simp)]

theorem flatten_parenthesizePieces (wanted : Bool) {pieces : List (List Char)} {cs : List Char}
    (h : pieces.flatten = cs) :
    (parenthesizePieces wanted pieces).flatten = parenthesize wanted cs := by
  subst h
  cases wanted with
  | true => simp [parenthesizePieces, parenthesize]
  | false => rfl

theorem flatten_numberPieces (cs : List Char) : (numberPieces cs).flatten = cs := by
  unfold numberPieces
  split <;> simp

mutual

theorem flatten_pieces : (e : Expr) → e.pieces.flatten = e.chars
  | .number x => by rw [pieces, chars, flatten_numberPieces]
  | .text _ | .boolean _ | .error _ | .cell _ => by simp [pieces, chars]
  | .range r => by simp [pieces, chars, CellRange.write]
  | .binary op left right => by
      rw [pieces, chars, List.flatten_append, List.flatten_cons,
        flatten_parenthesizePieces _ (flatten_pieces left),
        flatten_parenthesizePieces _ (flatten_pieces right), List.append_assoc]
  | .negate e => by
      rw [pieces, chars, List.flatten_cons, flatten_parenthesizePieces _ (flatten_pieces e)]
      rfl
  | .call function args => by
      have inside := flatten_argPieces args
      simp [pieces, chars, inside]

theorem flatten_argPieces : (args : List Expr) → (argPieces args).flatten = argChars args
  | [] => by rw [argPieces, argChars, List.flatten_nil]
  | [e] => by rw [argPieces, argChars, flatten_pieces e]
  | e :: e' :: rest => by
      rw [argPieces_cons e (by simp), argChars_cons e (by simp), List.flatten_append,
        flatten_pieces e, List.flatten_cons, flatten_argPieces (e' :: rest)]
      rfl

end

end Expr

/-! ## Lexemes in front of a gap -/

namespace Lexer

def Loose (rest : List Char) : Prop := ∀ c ∈ rest.head?, Text.isBlank c = true

variable {cs rest : List Char}

theorem Loose.head_ne (h : Loose rest) {d : Char} (solid : Text.isBlank d = false) :
    ∀ c ∈ rest.head?, c ≠ d := by
  rintro c mem rfl
  rw [h c mem] at solid
  cases solid

theorem Loose.no_word (h : Loose rest) : ∀ c ∈ rest.head?, isWordChar c = false := by
  intro c mem
  refine Bool.eq_false_iff.2 fun word => ?_
  have blank := h c mem
  rw [(word_opens word []).1] at blank
  cases blank

theorem Loose.no_error (h : Loose rest) : ∀ c ∈ rest.head?, isErrorChar c = false := by
  intro c mem
  have word := h.no_word c mem
  simp only [isWordChar, Bool.or_eq_false_iff] at word
  simp only [isErrorChar, Bool.or_eq_false_iff, word.1.1.1, true_and, beq_eq_false_iff_ne]
  exact ⟨⟨h.head_ne (by decide) c mem, h.head_ne (by decide) c mem⟩, h.head_ne (by decide) c mem⟩

theorem Loose.no_number (h : Loose rest) :
    ∀ c ∈ rest.head?, c.isDigit = false ∧ c ≠ '.' ∧ c ≠ 'e' ∧ c ≠ 'E' := by
  intro c mem
  have word := h.no_word c mem
  simp only [isWordChar, Char.isAlphanum, Bool.or_eq_false_iff] at word
  exact ⟨word.1.1.1.2, h.head_ne (by decide) c mem, h.head_ne (by decide) c mem,
    h.head_ne (by decide) c mem⟩

theorem lexeme_number {x : Float} (plain : Decimal.Plain cs) (read : Decimal.readFinite cs = some x)
    (loose : Loose rest) : Lexeme cs rest (.number x) := by
  have longest := longest_numeral_iff.2 (numberLexeme_plain plain loose.no_number)
  obtain ⟨c, cs, rfl, digit⟩ := plain.head
  exact .number (by simp [startsNumber, digit]) longest read

theorem lexeme_text (s : String) (loose : Loose rest) : Lexeme (Expr.quoteText s) rest (.text s) :=
  .text fun quote => loose.head_ne (by decide) _ quote rfl

theorem lexeme_error (code : ErrorCode) (loose : Loose rest) :
    Lexeme code.write.toList rest (.error code) := by
  refine .error ?_ (by rw [String.ofList_toList, read_write])
  rw [error_toList]
  exact longest_run_iff.2 ⟨rfl, takeWhile_append_stop (errorTail_chars code) loose.no_error⟩

theorem longest_word {c : Char} {tail : List Char} (letter : c.isAlpha = true ∨ c = '$')
    (word : ∀ d ∈ tail, isWordChar d = true) (loose : Loose rest) :
    Longest IsWord (c :: tail) rest := by
  refine longest_run_iff.2 ⟨?_, takeWhile_append_stop word loose.no_word⟩
  rcases letter with alpha | rfl
  · simp [opensWord, alpha]
  · rfl

theorem lexeme_cell (ref : CellRef) (loose : Loose rest) (noCall : opensCall rest = false) :
    Lexeme ref.write rest (.cell (String.ofList ref.write)) := by
  refine .cell ?_ noCall (readBoolean_ref ref) (isCellWord_write ref)
  obtain ⟨c, cs, text, letter, word⟩ := word_ref ref
  rw [text]
  exact longest_word letter word loose

theorem lexeme_boolean (b : Bool) (loose : Loose rest) (noCall : opensCall rest = false) :
    Lexeme (booleanText b).toList rest (.boolean b) := by
  refine .boolean ?_ noCall (by cases b <;> decide)
  cases b with
  | true => exact longest_word (.inl (by decide)) (forall_of_all (by decide)) loose
  | false => exact longest_word (.inl (by decide)) (forall_of_all (by decide)) loose

theorem lexeme_name (f : Builtin) (loose : Loose rest) (call : opensCall rest = true) :
    Lexeme f.name.toList rest (.name f.name) := by
  have longest : Longest IsWord f.name.toList rest := by
    obtain ⟨c, cs, text, letter, word⟩ := word_name f
    rw [text]
    exact longest_word letter word loose
  have named := Lexeme.called longest call
  rwa [String.ofList_toList] at named

theorem lexeme_operator (op : BinaryOp) (loose : Loose rest) :
    Lexeme op.symbol.toList rest op.token := by
  rw [symbol_toList]
  cases op with
  | equal | concat | add | subtract | multiply | divide | power => exact .symbol rfl
  | notEqual => exact .notEqual rest
  | lessEqual => exact .lessEqual rest
  | greaterEqual => exact .greaterEqual rest
  | less =>
      exact .less fun c mem =>
        ⟨loose.head_ne (by decide) c mem, loose.head_ne (by decide) c mem⟩
  | greater => exact .greater (loose.head_ne (by decide))

end Lexer

/-! ## Pieces and their tokens -/

def Writes (pieces : List (List Char)) (ts : List Token) : Prop :=
  ∀ cs, Spaced pieces cs → Spelled cs ts

inductive Behind : List (List Char) → List Char → Prop
  | nil : Behind [] []
  | cons {gap next cs : List Char} {pieces : List (List Char)} :
      Gap gap → Spaced (next :: pieces) cs → Behind (next :: pieces) (gap ++ cs)

variable {pieces : List (List Char)} {piece rest cs : List Char}

theorem Spaced.split (h : Spaced (piece :: pieces) cs) :
    ∃ rest, cs = piece ++ rest ∧ Behind pieces rest := by
  cases h with
  | last => exact ⟨[], (List.append_nil piece).symm, .nil⟩
  | cons gap spaced => exact ⟨_, List.append_assoc .., .cons gap spaced⟩

theorem Behind.loose (h : Behind pieces rest) : Loose rest := by
  cases h with
  | nil => exact fun _ mem => nomatch mem
  | @cons gap _ _ _ blanks _ =>
      obtain ⟨c, gap, rfl⟩ := List.exists_cons_of_ne_nil blanks.1
      rintro _ ⟨⟩
      exact blanks.2 c List.mem_cons_self

theorem Behind.opensCall {c : Char} {tail : List Char} (h : Behind ((c :: tail) :: pieces) rest)
    (solid : Text.isBlank c = false) : opensCall rest = (c == '(') := by
  cases h with
  | cons gap spaced =>
      obtain ⟨rest, rfl, _⟩ := spaced.split
      unfold Lexer.opensCall
      rw [List.dropWhile_append_of_pos gap.2, List.cons_append, List.dropWhile_cons_of_neg (by simp [solid])]
      rfl

def Closing (pieces : List (List Char)) : Prop :=
  ∀ piece ∈ pieces.head?, ∃ c tail, piece = c :: tail ∧ c ∈ closers

theorem Behind.no_call (h : Behind pieces rest) (closing : Closing pieces) :
    Lexer.opensCall rest = false := by
  cases pieces with
  | nil =>
      cases h
      rfl
  | cons next pieces =>
      obtain ⟨c, tail, rfl, closes⟩ := closing next rfl
      have apart := closers_no_call c closes
      rw [h.opensCall apart.1, beq_eq_false_iff_ne]
      exact apart.2

theorem writes_nil : Writes [] [] := by
  intro cs spaced
  cases spaced
  exact .done

theorem spelled_gap {gap : List Char} {ts : List Token} (blanks : ∀ c ∈ gap, Text.isBlank c = true)
    (h : Spelled cs ts) : Spelled (gap ++ cs) ts := by
  induction gap with
  | nil => exact h
  | cons c gap ih =>
      exact .blank (blanks c List.mem_cons_self) (ih fun d mem => blanks d (List.mem_cons_of_mem _ mem))

theorem Writes.cons {t : Token} {ts : List Token}
    (lexeme : ∀ rest, Behind pieces rest → Lexeme piece rest t) (h : Writes pieces ts) :
    Writes (piece :: pieces) (t :: ts) := by
  intro cs spaced
  obtain ⟨rest, rfl, behind⟩ := spaced.split
  refine .token (lexeme rest behind) ?_
  cases behind with
  | nil => exact h [] .nil
  | cons gap others => exact spelled_gap gap.2 (h _ others)

namespace Expr

def Spread (n : Nat) (pieces : List (List Char)) (e : Expr) : Prop :=
  ∃ ts, ts.length = pieces.length ∧ Derives n ts e.reread ∧
    ∀ others us, Closing others → Writes others us → Writes (pieces ++ others) (ts ++ us)

theorem closing_cons {c : Char} {others : List (List Char)} (h : c ∈ closers) :
    Closing ([c] :: others) := by
  rintro _ ⟨⟩
  exact ⟨c, [], rfl, h⟩

theorem writes_symbol {c : Char} {t : Token} {others : List (List Char)} {us : List Token}
    (h : symbolToken? c = some t) (more : Writes others us) : Writes ([c] :: others) (t :: us) :=
  more.cons fun _ _ => .symbol h

theorem Spread.atom {piece : List Char} {t : Token} {e : Expr} (derives : Derives e.level [t] e.reread)
    (lexeme : ∀ rest, Loose rest → opensCall rest = false → Lexeme piece rest t) :
    Spread e.level [piece] e :=
  ⟨[t], rfl, derives, fun _ _ closing more =>
    more.cons fun rest behind => lexeme rest behind.loose (behind.no_call closing)⟩

theorem Spread.parenthesize {pieces : List (List Char)} {e : Expr} {n : Nat}
    (h : Spread e.level pieces e) (wanted : Bool) (bound : n ≤ 7)
    (enough : wanted = false → n ≤ e.level) : Spread n (parenthesizePieces wanted pieces) e := by
  obtain ⟨ts, length, derives, writes⟩ := h
  have levels := e.level_bounds
  cases wanted with
  | false => exact ⟨ts, length, derives.looser (enough rfl) (by omega), writes⟩
  | true =>
      have inner : Derives 1 ts e.reread := derives.looser levels.1 (by omega)
      refine ⟨.leftParen :: ts ++ [.rightParen], by simp [parenthesizePieces, length],
        inner.paren.looser (by omega) (by omega), ?_⟩
      intro others us _ more
      have closed := writes ([')'] :: others) (.rightParen :: us) (closing_cons (by decide))
        (writes_symbol rfl more)
      have whole := writes_symbol (c := '(') rfl closed
      simpa [parenthesizePieces] using whole

theorem Spread.negate {e : Expr} (h : Spread e.level e.pieces e) (other : ∀ x, e ≠ .number x) :
    Spread (negate e).level (negate e).pieces (negate e) := by
  obtain ⟨ts, length, derives, writes⟩ := h.parenthesize (n := signLevel)
    (decide (e.level < signLevel)) (by decide) (by simp)
  refine ⟨.minus :: ts, by simp [pieces, length], ?_, fun others us closing more => ?_⟩
  · rw [reread, ← negated_eq (reread_ne_number other)]
    exact derives.minus
  · rw [pieces]
    exact writes_symbol rfl (writes others us closing more)

theorem closing_operator (op : BinaryOp) (others : List (List Char)) :
    Closing (op.symbol.toList :: others) := by
  obtain ⟨c, cs, text, closes, _⟩ := symbol_head op
  rintro _ ⟨⟩
  exact ⟨c, cs, text, closes⟩

theorem Spread.binary {op : BinaryOp} {left right : Expr} (hl : Spread left.level left.pieces left)
    (hr : Spread right.level right.pieces right) :
    Spread (binary op left right).level (binary op left right).pieces (binary op left right) := by
  have levels : 1 ≤ op.level ∧ op.level ≤ 5 := by
    cases op <;> decide
  obtain ⟨ts, length, derives, writes⟩ := hl.parenthesize (n := op.level)
    (decide (left.level < op.level)) (by omega) (by simp)
  have loose : decide (right.level ≤ op.level) = false → op.level + 1 ≤ right.level := by
    intro above
    have := of_decide_eq_false above
    omega
  obtain ⟨ts', length', derives', writes'⟩ := hr.parenthesize (n := op.level + 1)
    (decide (right.level ≤ op.level)) (by omega) loose
  refine ⟨ts ++ op.token :: ts', by simp [pieces, length, length'], ?_, fun others us closing more => ?_⟩
  · rw [reread]
    exact .binary op.operatorAt_token derives derives'
  · have behind := (writes' others us closing more).cons fun rest behind =>
      lexeme_operator op behind.loose
    have whole := writes _ _ (closing_operator op _) behind
    rw [pieces, List.append_assoc, List.append_assoc]
    exact whole

theorem spread_args {args : List Expr} (h : ∀ a ∈ args, Spread a.level a.pieces a) :
    ∃ parts : List (List Token × Expr), parts.map (·.2) = rereadArgs args ∧
      (commaJoined (parts.map (·.1))).length = (argPieces args).length ∧
      (∀ part ∈ parts, Derives 1 part.1 part.2) ∧
      ∀ others us, Closing others → Writes others us →
        Writes (argPieces args ++ others) (commaJoined (parts.map (·.1)) ++ us) := by
  induction args with
  | nil =>
      refine ⟨[], by rw [rereadArgs, List.map_nil], ?_⟩
      rw [argPieces]
      exact ⟨rfl, by simp, fun others us _ more => more⟩
  | cons e args ih =>
      obtain ⟨ts, length, derives, writes⟩ := h e List.mem_cons_self
      have derives' : Derives 1 ts e.reread := by
        have levels := e.level_bounds
        exact derives.looser levels.1 (by omega)
      obtain ⟨parts, trees, lengths, derivesAll, writesRest⟩ :=
        ih fun a mem => h a (List.mem_cons_of_mem _ mem)
      refine ⟨(ts, e.reread) :: parts, by rw [List.map_cons, trees, rereadArgs], ?_⟩
      rw [List.map_cons]
      by_cases last : args = []
      · subst last
        obtain rfl : parts = [] := List.eq_nil_of_length_eq_zero (length_of_trees trees)
        rw [argPieces]
        exact ⟨length, List.forall_mem_cons.2 ⟨derives', derivesAll⟩, writes⟩
      · rw [argPieces_cons e last, commaJoined_cons (tokens_ne_nil_of_trees trees last)]
        refine ⟨by simp [length, lengths], List.forall_mem_cons.2 ⟨derives', derivesAll⟩,
          fun others us closing more => ?_⟩
        have later := writes_symbol (c := ',') rfl (writesRest others us closing more)
        have whole := writes _ _ (closing_cons (by decide)) later
        rw [List.append_assoc, List.append_assoc]
        exact whole

theorem Spread.call {f : Builtin} {args : List Expr} (allowed : f.arity.Allows args.length)
    (h : ∀ a ∈ args, Spread a.level a.pieces a) :
    Spread (call f.name args).level (call f.name args).pieces (call f.name args) := by
  obtain ⟨parts, trees, lengths, derives, writes⟩ := spread_args h
  have length := length_of_trees trees
  have whole := Derives.call parts f.ofName_name (by rw [length]; exact allowed) derives
  rw [trees, ← reread] at whole
  refine ⟨_, ?_, primary_at_level whole _, fun others us _ more => ?_⟩
  · simp [pieces, lengths]
  · have closed := writes ([')'] :: others) (.rightParen :: us) (closing_cons (by decide))
      (writes_symbol rfl more)
    have opened := (writes_symbol (c := '(') rfl closed).cons fun rest behind =>
      lexeme_name f behind.loose (behind.opensCall (c := '(') (by decide))
    rw [pieces]
    simpa using opened

theorem numberPieces_plain {cs : List Char} (plain : Decimal.Plain cs) : numberPieces cs = [cs] := by
  obtain ⟨c, cs, rfl, digit⟩ := plain.head
  unfold numberPieces
  split
  · rename_i sign
    cases sign
    cases digit
  · rfl

theorem Spread.number {x : Float} (finite : x.isFinite = true) (readable : Decimal.unreadable x = false) :
    Spread (number x).level (number x).pieces (number x) := by
  obtain ⟨cs, plain, text⟩ := Decimal.write_of_finite finite
  have level : (Expr.number x).level = if Decimal.signed x then signLevel else primaryLevel := rfl
  unfold Decimal.unreadable at readable
  unfold Spread
  cases sign : Decimal.signed x with
  | false =>
      rw [sign, if_neg (by decide)] at level text
      rw [text] at readable
      rw [pieces, reread, Decimal.readBack, level, text, numberPieces_plain plain]
      cases read : Decimal.readFinite cs with
      | none =>
          rw [read] at readable
          cases readable
      | some y =>
          exact ⟨[.number y], rfl, (Derives.number y).looser (by decide) (by decide), fun others us _ more =>
            more.cons fun rest behind => lexeme_number plain read behind.loose⟩
  | true =>
      rw [sign, if_pos rfl] at level text
      rw [text, Decimal.readFinite_minus plain] at readable
      rw [pieces, reread, Decimal.readBack, level, text, Decimal.readFinite_minus plain]
      cases read : Decimal.readFinite cs with
      | none =>
          rw [read] at readable
          cases readable
      | some y =>
          exact ⟨[.minus, .number y], rfl, ((Derives.number y).looser (by decide) (by decide)).minus,
            fun others us _ more => writes_symbol rfl
              (more.cons fun rest behind => lexeme_number plain read behind.loose)⟩

theorem WellFormed.spread {e : Expr} (h : e.WellFormed)
    (readable : ∀ x ∈ e.numbers, Decimal.unreadable x = false) : Spread e.level e.pieces e := by
  induction h with
  | @number x finite =>
      exact Spread.number finite (readable x (by rw [numbers]; exact List.mem_singleton.2 rfl))
  | text s =>
      rw [pieces]
      exact .atom (primary_at_level (.text s) _) fun rest loose _ => lexeme_text s loose
  | boolean b =>
      rw [pieces]
      exact .atom (primary_at_level (.boolean b) _) fun rest => lexeme_boolean b
  | error code =>
      rw [pieces]
      exact .atom (primary_at_level (.error code) _) fun rest loose _ => lexeme_error code loose
  | @cell ref bounds =>
      rw [pieces]
      exact .atom (primary_at_level (.cell (parseRef_write bounds)) _) fun rest => lexeme_cell ref
  | @range r bounds =>
      have derives := Derives.range (Derives.cell (parseRef_write bounds.1)) (parseRef_write bounds.2)
      rw [CellRange.between_corners] at derives
      refine ⟨_, by simp [pieces], derives, fun others us closing more => ?_⟩
      have last := more.cons fun rest behind =>
        lexeme_cell r.last behind.loose (behind.no_call closing)
      have colon := writes_symbol (c := ':') rfl last
      rw [pieces]
      exact colon.cons fun rest behind =>
        lexeme_cell r.first behind.loose (behind.no_call (closing_cons (by decide)))
  | @binary op left right _ _ ihl ihr =>
      rw [numbers] at readable
      exact (ihl fun x mem => readable x (List.mem_append_left _ mem)).binary
        (ihr fun x mem => readable x (List.mem_append_right _ mem))
  | negate other _ ih =>
      exact (ih fun x mem => readable x (by rwa [numbers])).negate other
  | @call f args allowed _ ih =>
      refine Spread.call allowed fun a mem => ih a mem fun x inside => readable x ?_
      rw [numbers]
      exact mem_argNumbers.2 ⟨a, mem, inside⟩

/-! ## The spaced text of a tree -/

def Solid (cs : List Char) : Prop := cs ≠ [] ∧ ∀ c ∈ cs.getLast?, Text.isBlank c = false

theorem solid_single {c : Char} (h : Text.isBlank c = false) : Solid [c] := by
  refine ⟨by simp, ?_⟩
  rintro _ ⟨⟩
  exact h

theorem solid_operand {cs : List Char} (h : Operand cs) : Solid cs := ⟨h.nonempty, h.last⟩

theorem solid_append {cs : List Char} (h : Solid cs) (front : List Char) : Solid (front ++ cs) := by
  refine ⟨by simp [h.1], ?_⟩
  rw [List.getLast?_append_of_ne_nil _ h.1]
  exact h.2

theorem solid_symbol (op : BinaryOp) : Solid op.symbol.toList := by
  rw [symbol_toList]
  cases op <;> exact ⟨by decide, fun c last => by cases last; decide⟩

theorem solid_name (f : Builtin) : Solid f.name.toList := by
  have all : ∀ c ∈ f.name.toList, Text.isBlank c = false := forall_of_all (by cases f <;> decide)
  exact ⟨by cases f <;> decide, fun c last => all c (List.mem_of_getLast? last)⟩

theorem solid_parenthesizePieces {pieces : List (List Char)} (wanted : Bool)
    (h : ∀ piece ∈ pieces, Solid piece) : ∀ piece ∈ parenthesizePieces wanted pieces, Solid piece := by
  cases wanted with
  | false => exact h
  | true =>
      have opening : Solid ['('] := solid_single (by decide)
      have closing : Solid [')'] := solid_single (by decide)
      simpa [parenthesizePieces, or_imp, forall_and, opening, closing] using h

theorem solid_argPieces {args : List Expr} (h : ∀ a ∈ args, ∀ piece ∈ a.pieces, Solid piece) :
    ∀ piece ∈ argPieces args, Solid piece := by
  induction args with
  | nil =>
      rw [argPieces]
      exact fun _ mem => nomatch mem
  | cons e args ih =>
      rw [List.forall_mem_cons] at h
      by_cases last : args = []
      · subst last
        rw [argPieces]
        exact h.1
      · have comma : Solid [','] := solid_single (by decide)
        rw [argPieces_cons e last, List.forall_mem_append, List.forall_mem_cons]
        exact ⟨h.1, comma, ih h.2⟩

theorem WellFormed.solid_pieces {e : Expr} (h : e.WellFormed) : ∀ piece ∈ e.pieces, Solid piece := by
  have minus : Solid ['-'] := solid_single (by decide)
  induction h with
  | @number x finite =>
      obtain ⟨cs, plain, text⟩ := Decimal.write_of_finite finite
      have number := solid_operand (operand_plain plain)
      rw [pieces, text]
      split
      · simp [numberPieces, minus, number]
      · simp [numberPieces_plain plain, number]
  | text s =>
      have whole := solid_operand (WellFormed.text s).operand
      simpa [pieces, chars] using whole
  | boolean b =>
      have whole := solid_operand (WellFormed.boolean b).operand
      simpa [pieces, chars] using whole
  | error code =>
      have whole := solid_operand (WellFormed.error code).operand
      simpa [pieces, chars] using whole
  | @cell ref _ => simpa [pieces] using solid_operand (operand_ref ref)
  | @range r _ =>
      have colon : Solid [':'] := solid_single (by decide)
      simp [pieces, colon, solid_operand (operand_ref r.first), solid_operand (operand_ref r.last)]
  | @binary op left right _ _ ihl ihr =>
      rw [pieces, List.forall_mem_append, List.forall_mem_cons]
      exact ⟨solid_parenthesizePieces _ ihl, solid_symbol op, solid_parenthesizePieces _ ihr⟩
  | negate _ _ ih =>
      rw [pieces, List.forall_mem_cons]
      exact ⟨minus, solid_parenthesizePieces _ ih⟩
  | @call f args _ _ ih =>
      have opening : Solid ['('] := solid_single (by decide)
      have closing : Solid [')'] := solid_single (by decide)
      simpa [pieces, or_imp, forall_and, opening, closing, solid_name f] using solid_argPieces ih

theorem solid_of_spaced {pieces : List (List Char)} {cs : List Char} (spaced : Spaced pieces cs)
    (some : pieces ≠ []) (h : ∀ piece ∈ pieces, Solid piece) : Solid cs := by
  induction spaced with
  | nil => exact absurd rfl some
  | last piece => exact h piece List.mem_cons_self
  | cons gap _ ih =>
      exact solid_append (ih (by simp) fun piece mem => h piece (List.mem_cons_of_mem _ mem)) _

/-- The tokens of the canonical text, with gaps of any width between them, are read back as an equal
tree, whatever blanks stand behind the equals sign. -/
theorem WellFormed.parse_spaced {e : Expr} (h : e.WellFormed)
    (readsBack : ∀ x ∈ e.numbers, x.isFinite = true → Decimal.ReadsBack x) :
    e.pieces.flatten = e.chars ∧
    ∀ lead cs, (∀ c ∈ lead, Text.isBlank c = true) → Spaced e.pieces cs →
      (tokens 0 cs).1.length = e.pieces.length ∧
      ∃ e', parseFormula (String.ofList ('=' :: lead ++ cs)) = .ok e' ∧ e'.same e = true := by
  have convertible : ∀ x ∈ e.numbers, Decimal.ReadsBack x := fun x mem => readsBack x mem (h.finite x mem)
  obtain ⟨ts, length, derives, writes⟩ := h.spread fun x mem => (convertible x mem).readable.1
  refine ⟨flatten_pieces e, fun lead cs blanks spaced => ?_⟩
  have levels := e.level_bounds
  have phrase : Derives 1 ts e.reread := derives.looser levels.1 (by omega)
  have spelled : Spelled cs ts := by
    have whole := writes [] [] (fun _ mem => nomatch mem) writes_nil
    rw [List.append_nil, List.append_nil] at whole
    exact whole cs spaced
  have some : e.pieces ≠ [] := by
    intro none
    obtain ⟨t, us, rfl, _⟩ := phrase.head
    rw [none] at length
    cases length
  have solid := solid_of_spaced spaced some h.solid_pieces
  refine ⟨?_, e.reread, parseFormula_eq_ok_iff.2 ⟨ts, ⟨lead ++ cs, ?_, spelled_gap blanks spelled⟩, phrase⟩,
    same_reread e convertible⟩
  · rw [tokens_of_spelled spelled 0]
    exact length
  · rw [String.toList_ofList]
    exact Text.trimBlanks_eq_of_trimmed ⟨fun c head => by cases head; decide,
      fun c last => (solid_append solid ('=' :: lead)).2 c last⟩

def errorOverPower : Expr :=
  .binary .divide (.error .brokenReference) (.binary .power (.number (-2)) (.number 2))

theorem errorOverPower_spaced :
    errorOverPower.WellFormed ∧
    (∀ x ∈ errorOverPower.numbers, x.isFinite = true → Decimal.ReadsBack x) ∧
    errorOverPower.write = "#REF!/-2^2" ∧
    ∃ e', parseFormula "= #REF! / - 2  ^ 2" = .ok e' ∧ e'.same errorOverPower = true := by
  have wellFormed : errorOverPower.WellFormed :=
    .binary (.error _) (.binary (.number (by decide +kernel)) (.number (by decide +kernel)))
  have readsBack : ∀ x ∈ errorOverPower.numbers, x.isFinite = true → Decimal.ReadsBack x := by
    intro x mem _
    have either : x = -2 ∨ x = 2 := by simpa [errorOverPower, numbers] using mem
    rcases either with rfl | rfl
    · exact ⟨-2, by decide +kernel, by decide +kernel⟩
    · exact ⟨2, by decide +kernel, by decide +kernel⟩
  have cut : errorOverPower.pieces =
      [['#', 'R', 'E', 'F', '!'], ['/'], ['-'], ['2'], ['^'], ['2']] := by decide +kernel
  have gap : Gap [' '] := ⟨by decide, forall_of_all (by decide)⟩
  have wide : Gap [' ', ' '] := ⟨by decide, forall_of_all (by decide)⟩
  have spaced : Spaced errorOverPower.pieces "#REF! / - 2  ^ 2".toList := by
    rw [cut]
    exact .cons gap (.cons gap (.cons gap (.cons wide (.cons gap (.last _)))))
  refine ⟨wellFormed, readsBack, by decide +kernel, ?_⟩
  exact ((wellFormed.parse_spaced readsBack).2 [' '] _ gap.2 spaced).2

end Expr

end Spreadsheet
