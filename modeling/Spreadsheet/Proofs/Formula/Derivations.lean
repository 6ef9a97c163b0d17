import Spreadsheet.Proofs.Formula.Completeness
import Spreadsheet.Proofs.Grid.ReferenceWords

/-!
# Derivations

A derivation says which rules of the grammar make a phrase, and where. The phrases of a level are the
token lists that have a derivation of it (`derives_iff`), and no phrase has two: where one phrase ends
is settled by what may follow it, and a chain of operators of one level comes apart from the left in
one way only (`unambiguous`).
-/

namespace Spreadsheet
open Spreadsheet.Parser (negated parseRef)
open Spreadsheet.Descent (Ends ends_of_not_operator ends_rightParen ends_comma ends_operator
  level_of_operator commaJoined_eq parseWhole_eq_ok_iff)

inductive Derivation
  | tighter (phrase : Derivation)
  | binary (operator : Token) (left right : Derivation)
  | minus (operand : Derivation)
  | plus (operand : Derivation)
  | range (first : Derivation) (last : String)
  | atom (t : Token)
  | paren (inside : Derivation)
  | call (word : String) (args : List Derivation)

namespace Derivation

mutual

def tokens : Derivation → List Token
  | tighter d => tokens d
  | binary t left right => tokens left ++ t :: tokens right
  | minus d => .minus :: tokens d
  | plus d => .plus :: tokens d
  | range first last => tokens first ++ [.colon, .cell last]
  | atom t => [t]
  | paren d => .leftParen :: tokens d ++ [.rightParen]
  | call word args => .name word :: .leftParen :: commaJoined (argTokens args) ++ [.rightParen]

def argTokens : List Derivation → List (List Token)
  | [] => []
  | d :: rest => tokens d :: argTokens rest

end

theorem argTokens_eq_map (args : List Derivation) : argTokens args = args.map tokens := by
  induction args with
  | nil => rfl
  | cons d rest ih => rw [argTokens, ih, List.map_cons]

def Refers (word : String) (ref : CellRef) : Prop := CellRef.Names (Text.trimBlanks word.toList) ref

theorem parseRef_eq_ok_iff {word : String} {ref : CellRef} :
    parseRef word = .ok ref ↔ Refers word ref := by
  rw [parseRef, mapError_eq_ok]
  exact CellRef.parse_eq_ok_iff

inductive Atom : Token → Expr → Prop
  | number (x : Float) : Atom (.number x) (.number x)
  | text (s : String) : Atom (.text s) (.text s)
  | boolean (b : Bool) : Atom (.boolean b) (.boolean b)
  | error (code : ErrorCode) : Atom (.error code) (.error code)
  | cell {word : String} {ref : CellRef} : Refers word ref → Atom (.cell word) (.cell ref)

/-- The derivation follows the rules from the level `n` on, and what it derives has the tree `e`.
Levels 1 to 5 are those of the binary operators, and behind them come signs, ranges and primaries. A
range begins with a primary whose tree is a single cell. -/
inductive Yields : Nat → Derivation → Expr → Prop
  | tighter {n : Nat} {d : Derivation} {e : Expr} :
      n < 8 → Yields (n + 1) d e → Yields n (.tighter d) e
  | binary {n : Nat} {t : Token} {op : BinaryOp} {left right : Derivation} {e e' : Expr} :
      t.operatorAt? n = some op → Yields n left e → Yields (n + 1) right e' →
      Yields n (.binary t left right) (.binary op e e')
  | minus {d : Derivation} {e : Expr} : Yields 6 d e → Yields 6 (.minus d) (negated e)
  | plus {d : Derivation} {e : Expr} : Yields 6 d e → Yields 6 (.plus d) e
  | range {d : Derivation} {first last : CellRef} {word : String} :
      Yields 8 d (.cell first) → Refers word last →
      Yields 7 (.range d word) (.range (.between first last))
  | atom {t : Token} {e : Expr} : Atom t e → Yields 8 (.atom t) e
  | paren {d : Derivation} {e : Expr} : Yields 1 d e → Yields 8 (.paren d) e
  | call {word : String} {f : Builtin} (args : List (Derivation × Expr)) :
      Builtin.ofName? word = some f → f.arity.Allows args.length →
      (∀ a ∈ args, Yields 1 a.1 a.2) →
      Yields 8 (.call word (args.map (·.1))) (.call f.name (args.map (·.2)))

/-! ## Phrases and their derivations -/

theorem Yields.derives {n : Nat} {d : Derivation} {e : Expr} (h : Yields n d e) :
    Derives n d.tokens e := by
  induction h with
  | tighter lt _ ih => exact .tighter lt ih
  | binary at_ _ _ ih ih' => exact .binary at_ ih ih'
  | minus _ ih => exact .minus ih
  | plus _ ih => exact .plus ih
  | range _ refers ih => exact .range ih (parseRef_eq_ok_iff.2 refers)
  | atom atom =>
      cases atom with
      | number x => exact .number x
      | text s => exact .text s
      | boolean b => exact .boolean b
      | error code => exact .error code
      | cell refers => exact .cell (parseRef_eq_ok_iff.2 refers)
  | paren _ ih => exact .paren ih
  | @call word f args named allowed _ ih =>
      have derives := Derives.call (args.map fun a => (a.1.tokens, a.2)) named
        (by rwa [List.length_map]) fun a mem => by
          obtain ⟨a', mem', rfl⟩ := List.mem_map.1 mem
          exact ih a' mem'
      rw [List.map_map, List.map_map] at derives
      rw [tokens, argTokens_eq_map, List.map_map]
      exact derives

theorem exists_args {parts : List (List Token × Expr)}
    (h : ∀ a ∈ parts, ∃ d, Yields 1 d a.2 ∧ d.tokens = a.1) :
    ∃ args : List (Derivation × Expr), (∀ a ∈ args, Yields 1 a.1 a.2) ∧
      args.map (·.2) = parts.map (·.2) ∧ argTokens (args.map (·.1)) = parts.map (·.1) := by
  induction parts with
  | nil => exact ⟨[], nofun, rfl, rfl⟩
  | cons a parts ih =>
      rw [List.forall_mem_cons] at h
      obtain ⟨⟨d, yields, spelled⟩, rest⟩ := h
      obtain ⟨args, all, trees, tokens⟩ := ih rest
      refine ⟨(d, a.2) :: args, List.forall_mem_cons.2 ⟨yields, all⟩, ?_, ?_⟩
      · rw [List.map_cons, List.map_cons, trees]
      · rw [List.map_cons, List.map_cons, argTokens, tokens, spelled]

theorem exists_of_derives {n : Nat} {ts : List Token} {e : Expr} (h : Derives n ts e) :
    ∃ d, Yields n d e ∧ d.tokens = ts := by
  induction h with
  | tighter lt _ ih =>
      obtain ⟨d, yields, rfl⟩ := ih
      exact ⟨.tighter d, .tighter lt yields, rfl⟩
  | @binary _ t _ _ _ _ _ at_ _ _ ih ih' =>
      obtain ⟨left, yields, rfl⟩ := ih
      obtain ⟨right, yields', rfl⟩ := ih'
      exact ⟨.binary t left right, .binary at_ yields yields', rfl⟩
  | minus _ ih =>
      obtain ⟨d, yields, rfl⟩ := ih
      exact ⟨.minus d, .minus yields, rfl⟩
  | plus _ ih =>
      obtain ⟨d, yields, rfl⟩ := ih
      exact ⟨.plus d, .plus yields, rfl⟩
  | @range _ _ _ word _ parsed ih =>
      obtain ⟨d, yields, rfl⟩ := ih
      exact ⟨.range d word, .range yields (parseRef_eq_ok_iff.1 parsed), rfl⟩
  | number x => exact ⟨_, .atom (.number x), rfl⟩
  | text s => exact ⟨_, .atom (.text s), rfl⟩
  | boolean b => exact ⟨_, .atom (.boolean b), rfl⟩
  | error code => exact ⟨_, .atom (.error code), rfl⟩
  | cell parsed => exact ⟨_, .atom (.cell (parseRef_eq_ok_iff.1 parsed)), rfl⟩
  | paren _ ih =>
      obtain ⟨d, yields, rfl⟩ := ih
      exact ⟨.paren d, .paren yields, rfl⟩
  | @call word f parts named allowed _ ih =>
      obtain ⟨args, all, trees, spelled⟩ := exists_args ih
      have length : args.length = parts.length := by
        rw [← List.length_map, trees, List.length_map]
      refine ⟨.call word (args.map (·.1)), ?_, by rw [tokens, spelled]⟩
      rw [← trees]
      exact .call args named (by rwa [length]) all

theorem derives_iff {n : Nat} {ts : List Token} {e : Expr} :
    Derives n ts e ↔ ∃ d, Yields n d e ∧ d.tokens = ts := by
  constructor
  · exact exists_of_derives
  · rintro ⟨d, yields, rfl⟩
    exact yields.derives

/-! ## Chains of operators -/

def chainTokens (xs : List (Token × Derivation)) : List Token :=
  xs.flatMap fun x => x.1 :: x.2.tokens

def grow (d : Derivation) (xs : List (Token × Derivation)) : Derivation :=
  xs.foldl (fun left x => .binary x.1 left x.2) d

def IsPhrase (n : Nat) (d : Derivation) : Prop := ∃ e, Yields n d e

def IsChain (n : Nat) (xs : List (Token × Derivation)) : Prop :=
  ∀ x ∈ xs, (∃ op, x.1.operatorAt? n = some op) ∧ IsPhrase (n + 1) x.2

theorem tokens_grow (d : Derivation) (xs : List (Token × Derivation)) :
    (d.grow xs).tokens = d.tokens ++ chainTokens xs := by
  induction xs generalizing d with
  | nil => exact (List.append_nil _).symm
  | cons x xs ih =>
      show ((Derivation.binary x.1 d x.2).grow xs).tokens = _
      rw [ih, tokens, List.append_assoc]
      rfl

theorem exists_chain {n : Nat} (low : n < 6) {d : Derivation} (h : IsPhrase n d) :
    ∃ a xs, IsPhrase (n + 1) a ∧ IsChain n xs ∧ d = (Derivation.tighter a).grow xs := by
  obtain ⟨e, h⟩ := h
  induction h with
  | @tighter _ a e _ yields => exact ⟨a, [], ⟨e, yields⟩, nofun, rfl⟩
  | @binary n t op left right e e' at_ _ yields ih =>
      obtain ⟨a, xs, first, chain, rfl⟩ := ih low
      refine ⟨a, xs ++ [(t, right)], first, ?_, by rw [grow, grow, List.foldl_concat]⟩
      rintro x mem
      rcases List.mem_append.1 mem with before | last
      · exact chain x before
      · rw [List.mem_singleton.1 last]
        exact ⟨⟨op, at_⟩, e', yields⟩
  | minus | plus | range | atom | paren | call => omega

theorem ends_chain {n : Nat} {xs : List (Token × Derivation)} (chain : IsChain n xs)
    {rest : List Token} (ends : Ends n rest) : Ends (n + 1) (chainTokens xs ++ rest) := by
  cases xs with
  | nil => exact ends.mono (Nat.le_succ n)
  | cons x xs =>
      obtain ⟨op, at_⟩ := (chain x List.mem_cons_self).1
      exact ends_operator at_ (Nat.lt_succ_self n) _

/-! ## One phrase, one derivation -/

/-- In front of what does not extend it, the phrase is the only one of its level that may stand
there. From the level of primaries on nothing extends a phrase. -/
def Unrivalled (n : Nat) (d : Derivation) : Prop :=
  ∀ (d' : Derivation) (rest rest' : List Token), IsPhrase n d' →
    (n < 8 → Ends n rest) → (n < 8 → Ends n rest') → d.tokens ++ rest = d'.tokens ++ rest' →
    d = d' ∧ rest = rest'

def Leads (n : Nat) (d : Derivation) : Prop :=
  ∀ (d' : Derivation) (rest rest' : List Token), IsPhrase n d' → Ends (n + 1) rest → Ends n rest' →
    d.tokens ++ rest = d'.tokens ++ rest' →
    ∃ xs, IsChain n xs ∧ d' = d.grow xs ∧ rest = chainTokens xs ++ rest'

def Separable (n : Nat) (d : Derivation) : Prop := if n < 6 then Leads n d else Unrivalled n d

theorem Leads.unrivalled {n : Nat} (low : n < 6) {d : Derivation} (h : Leads n d) :
    Unrivalled n d := by
  intro d' rest rest' phrase ends ends' same
  have ends := ends (by omega)
  obtain ⟨xs, chain, rfl, rfl⟩ := h d' rest rest' phrase (ends.mono (Nat.le_succ n)) (ends' (by omega)) same
  cases xs with
  | nil => exact ⟨rfl, rfl⟩
  | cons x xs =>
      obtain ⟨op, at_⟩ := (chain x List.mem_cons_self).1
      obtain ⟨is, level⟩ := Descent.operatorAt?_eq_some at_
      exact absurd level (Nat.ne_of_lt ((ends x.1 rfl).2 op is))

theorem Separable.unrivalled {n : Nat} {d : Derivation} (h : Separable n d) : Unrivalled n d := by
  unfold Separable at h
  split at h
  · rename_i low
    exact h.unrivalled low
  · exact h

theorem IsPhrase.head {n : Nat} {d : Derivation} (h : IsPhrase n d) : ∃ t rest, d.tokens = t :: rest ∧
    (Derives.Opens t ∨ n ≤ 6 ∧ (t = .minus ∨ t = .plus)) := by
  obtain ⟨e, yields⟩ := h
  exact yields.derives.head

theorem IsPhrase.head_ne {n : Nat} {d : Derivation} (h : IsPhrase n d) (tight : 6 < n) {t : Token}
    {ts rest : List Token} (same : d.tokens ++ rest = t :: ts) : Derives.Opens t := by
  obtain ⟨t', ts', spelled, opens | ⟨le, _⟩⟩ := h.head
  · rw [spelled, List.cons_append] at same
    cases same
    exact opens
  · omega

theorem Leads.tighter {n : Nat} (low : n < 6) {d : Derivation} (h : Unrivalled (n + 1) d) :
    Leads n (.tighter d) := by
  intro d' rest rest' phrase ends ends' same
  obtain ⟨a, xs, first, chain, rfl⟩ := exists_chain low phrase
  rw [tokens_grow, tokens, tokens, List.append_assoc] at same
  obtain ⟨rfl, rfl⟩ := h a rest _ first (fun _ => ends) (fun _ => ends_chain chain ends') same
  exact ⟨xs, chain, rfl, rfl⟩

theorem Leads.binary {n : Nat} {t : Token} {op : BinaryOp} (at_ : t.operatorAt? n = some op)
    {left right : Derivation} (h : Leads n left) (h' : Unrivalled (n + 1) right) :
    Leads n (.binary t left right) := by
  intro d' rest rest' phrase ends ends' same
  rw [tokens, List.append_assoc, List.cons_append] at same
  have behind := ends_operator at_ (Nat.lt_succ_self n) (right.tokens ++ rest)
  obtain ⟨xs, chain, rfl, split⟩ := h d' _ rest' phrase behind ends' same
  cases xs with
  | nil =>
      -- The operator would follow the whole of the other phrase and extend it.
      obtain ⟨is, level⟩ := Descent.operatorAt?_eq_some at_
      rw [show chainTokens [] ++ rest' = rest' from rfl] at split
      exact absurd level (Nat.ne_of_lt ((ends' t (by rw [← split]; rfl)).2 op is))
  | cons x xs =>
      obtain ⟨t', right'⟩ := x
      rw [chainTokens, List.flatMap_cons, List.append_assoc, List.cons_append, List.cons.injEq] at split
      obtain ⟨rfl, split⟩ := split
      have more : IsChain n xs := fun y mem => chain y (List.mem_cons_of_mem _ mem)
      have operand := (chain _ List.mem_cons_self).2
      obtain ⟨rfl, rfl⟩ := h' right' rest _ operand (fun _ => ends) (fun _ => ends_chain more ends') split
      exact ⟨xs, more, rfl, rfl⟩

/-! ### Signs and ranges -/

theorem isPhrase_sign {d : Derivation} (h : IsPhrase 6 d) :
    (∃ d', d = .tighter d' ∧ IsPhrase 7 d') ∨ (∃ d', d = .minus d' ∧ IsPhrase 6 d') ∨
      ∃ d', d = .plus d' ∧ IsPhrase 6 d' := by
  obtain ⟨e, h⟩ := h
  cases h with
  | tighter _ yields => exact .inl ⟨_, rfl, _, yields⟩
  | binary at_ => exact absurd (level_of_operator at_) (by omega)
  | minus yields => exact .inr (.inl ⟨_, rfl, _, yields⟩)
  | plus yields => exact .inr (.inr ⟨_, rfl, _, yields⟩)

theorem isPhrase_range {d : Derivation} (h : IsPhrase 7 d) :
    (∃ d', d = .tighter d' ∧ IsPhrase 8 d') ∨ ∃ d' word, d = .range d' word ∧ IsPhrase 8 d' := by
  obtain ⟨e, h⟩ := h
  cases h with
  | tighter _ yields => exact .inl ⟨_, rfl, _, yields⟩
  | binary at_ => exact absurd (level_of_operator at_) (by omega)
  | range yields _ => exact .inr ⟨_, _, rfl, _, yields⟩

theorem isPhrase_primary {d : Derivation} (h : IsPhrase 8 d) :
    (∃ t e, d = .atom t ∧ Atom t e) ∨ (∃ d', d = .paren d' ∧ IsPhrase 1 d') ∨
      ∃ word args, d = .call word args ∧ ∀ a ∈ args, IsPhrase 1 a := by
  obtain ⟨e, h⟩ := h
  cases h with
  | tighter lt => omega
  | binary at_ => exact absurd (level_of_operator at_) (by omega)
  | atom atom => exact .inl ⟨_, _, rfl, atom⟩
  | paren yields => exact .inr (.inl ⟨_, rfl, _, yields⟩)
  | call args _ _ all =>
      refine .inr (.inr ⟨_, _, rfl, fun a mem => ?_⟩)
      obtain ⟨a', mem', rfl⟩ := List.mem_map.1 mem
      exact ⟨_, all a' mem'⟩

theorem Unrivalled.sign_tighter {d : Derivation} (phrase : IsPhrase 7 d) (h : Unrivalled 7 d) :
    Unrivalled 6 (.tighter d) := by
  intro d' rest rest' other ends ends' same
  have ends := (ends (by omega)).mono (Nat.le_succ 6)
  have ends' := (ends' (by omega)).mono (Nat.le_succ 6)
  rcases isPhrase_sign other with ⟨d', rfl, phrase'⟩ | ⟨d', rfl, _⟩ | ⟨d', rfl, _⟩
  · obtain ⟨rfl, rfl⟩ := h d' rest rest' phrase' (fun _ => ends) (fun _ => ends') same
    exact ⟨rfl, rfl⟩
  · exact (phrase.head_ne (by omega) same).elim
  · exact (phrase.head_ne (by omega) same).elim

theorem Unrivalled.minus {d : Derivation} (h : Unrivalled 6 d) : Unrivalled 6 (.minus d) := by
  intro d' rest rest' other ends ends' same
  rcases isPhrase_sign other with ⟨d', rfl, phrase'⟩ | ⟨d', rfl, phrase'⟩ | ⟨d', rfl, _⟩
  · exact (phrase'.head_ne (by omega) same.symm).elim
  · obtain ⟨rfl, rfl⟩ := h d' rest rest' phrase' ends ends' (List.cons.inj same).2
    exact ⟨rfl, rfl⟩
  · cases (List.cons.inj same).1

theorem Unrivalled.plus {d : Derivation} (h : Unrivalled 6 d) : Unrivalled 6 (.plus d) := by
  intro d' rest rest' other ends ends' same
  rcases isPhrase_sign other with ⟨d', rfl, phrase'⟩ | ⟨d', rfl, _⟩ | ⟨d', rfl, phrase'⟩
  · exact (phrase'.head_ne (by omega) same.symm).elim
  · cases (List.cons.inj same).1
  · obtain ⟨rfl, rfl⟩ := h d' rest rest' phrase' ends ends' (List.cons.inj same).2
    exact ⟨rfl, rfl⟩

theorem not_ends_colon {n : Nat} {rest : List Token} : ¬ Ends n (.colon :: rest) :=
  fun ends => (ends .colon rfl).1 rfl

theorem beyond_primaries {rest : List Token} : 8 < 8 → Ends 8 rest := fun lt => absurd lt (by omega)

theorem Unrivalled.range_tighter {d : Derivation} (h : Unrivalled 8 d) : Unrivalled 7 (.tighter d) := by
  intro d' rest rest' other ends _ same
  rcases isPhrase_range other with ⟨d', rfl, phrase'⟩ | ⟨d', word, rfl, phrase'⟩
  · obtain ⟨rfl, rfl⟩ := h d' rest rest' phrase' beyond_primaries beyond_primaries same
    exact ⟨rfl, rfl⟩
  · rw [tokens, tokens, List.append_assoc] at same
    obtain ⟨_, rfl⟩ := h d' rest _ phrase' beyond_primaries beyond_primaries same
    exact absurd (ends (by omega)) not_ends_colon

theorem Unrivalled.range {d : Derivation} {word : String} (h : Unrivalled 8 d) :
    Unrivalled 7 (.range d word) := by
  intro d' rest rest' other _ ends' same
  rw [tokens, List.append_assoc] at same
  rcases isPhrase_range other with ⟨d', rfl, phrase'⟩ | ⟨d', word', rfl, phrase'⟩
  · obtain ⟨_, rfl⟩ := h d' _ rest' phrase' beyond_primaries beyond_primaries same
    exact absurd (ends' (by omega)) not_ends_colon
  · rw [tokens, List.append_assoc] at same
    obtain ⟨rfl, split⟩ := h d' _ _ phrase' beyond_primaries beyond_primaries same
    cases split
    exact ⟨rfl, rfl⟩

/-! ### Primaries -/

theorem unrivalled_atom {t : Token} {e : Expr} (atom : Atom t e) : Unrivalled 8 (.atom t) := by
  intro d' rest rest' other _ _ same
  rcases isPhrase_primary other with ⟨t', e', rfl, _⟩ | ⟨d', rfl, _⟩ | ⟨word, args, rfl, _⟩
  · cases same
    exact ⟨rfl, rfl⟩
  · obtain ⟨rfl, _⟩ := List.cons.inj same
    cases atom
  · obtain ⟨rfl, _⟩ := List.cons.inj same
    cases atom

theorem Unrivalled.paren {d : Derivation} (h : Unrivalled 1 d) : Unrivalled 8 (.paren d) := by
  intro d' rest rest' other _ _ same
  rcases isPhrase_primary other with ⟨t', e', rfl, atom⟩ | ⟨d', rfl, phrase'⟩ | ⟨word, args, rfl, _⟩
  · obtain ⟨rfl, _⟩ := List.cons.inj same
    cases atom
  · rw [tokens, tokens, List.cons_append, List.cons_append, List.cons_append, List.cons_append,
      List.append_assoc, List.append_assoc] at same
    obtain ⟨rfl, split⟩ := h d' _ _ phrase' (fun _ => ends_rightParen 1 rest)
      (fun _ => ends_rightParen 1 rest') (List.cons.inj same).2
    cases split
    exact ⟨rfl, rfl⟩
  · cases (List.cons.inj same).1

theorem ends_args (args : List Derivation) (rest : List Token) :
    Ends 1 ((args.flatMap fun a => .comma :: a.tokens) ++ .rightParen :: rest) := by
  cases args with
  | nil => exact ends_rightParen 1 rest
  | cons a args => exact ends_comma 1 _

theorem moreArgs_unrivalled {args args' : List Derivation} {rest rest' : List Token}
    (h : ∀ a ∈ args, Unrivalled 1 a) (other : ∀ a ∈ args', IsPhrase 1 a)
    (same : (args.flatMap fun a => .comma :: a.tokens) ++ .rightParen :: rest =
      (args'.flatMap fun a => .comma :: a.tokens) ++ .rightParen :: rest') :
    args = args' ∧ rest = rest' := by
  induction args generalizing args' with
  | nil =>
      cases args' with
      | nil =>
          cases same
          exact ⟨rfl, rfl⟩
      | cons a' args' => cases (List.cons.inj same).1
  | cons a args ih =>
      cases args' with
      | nil => cases (List.cons.inj same).1
      | cons a' args' =>
          rw [List.forall_mem_cons] at h other
          rw [List.flatMap_cons, List.flatMap_cons, List.append_assoc, List.append_assoc] at same
          obtain ⟨rfl, split⟩ := h.1 a' _ _ other.1 (fun _ => ends_args args rest)
            (fun _ => ends_args args' rest') (List.cons.inj same).2
          obtain ⟨rfl, rfl⟩ := ih h.2 other.2 split
          exact ⟨rfl, rfl⟩

theorem args_unrivalled {args args' : List Derivation} {rest rest' : List Token}
    (phrases : ∀ a ∈ args, IsPhrase 1 a) (h : ∀ a ∈ args, Unrivalled 1 a)
    (other : ∀ a ∈ args', IsPhrase 1 a)
    (same : commaJoined (argTokens args) ++ .rightParen :: rest =
      commaJoined (argTokens args') ++ .rightParen :: rest') : args = args' ∧ rest = rest' := by
  have begins : ∀ {a : Derivation} {ts ts' : List Token}, IsPhrase 1 a →
      a.tokens ++ ts ≠ .rightParen :: ts' := by
    intro a ts ts' phrase eq
    obtain ⟨t, tail, spelled, first⟩ := phrase.head
    rw [spelled, List.cons_append] at eq
    obtain ⟨rfl, _⟩ := List.cons.inj eq
    simp [Derives.Opens] at first
  rw [argTokens_eq_map, argTokens_eq_map] at same
  cases args with
  | nil =>
      cases args' with
      | nil =>
          cases same
          exact ⟨rfl, rfl⟩
      | cons a' args' =>
          rw [List.map_cons, commaJoined_eq, List.append_assoc] at same
          exact absurd same.symm (begins (other a' List.mem_cons_self))
  | cons a args =>
      cases args' with
      | nil =>
          rw [List.map_cons, commaJoined_eq, List.append_assoc] at same
          exact absurd same (begins (phrases a List.mem_cons_self))
      | cons a' args' =>
          rw [List.forall_mem_cons] at h other
          rw [List.map_cons, List.map_cons, commaJoined_eq, commaJoined_eq, List.flatMap_map,
            List.flatMap_map, List.append_assoc, List.append_assoc] at same
          obtain ⟨rfl, split⟩ := h.1 a' _ _ other.1 (fun _ => ends_args args rest)
            (fun _ => ends_args args' rest') same
          obtain ⟨rfl, rfl⟩ := moreArgs_unrivalled h.2 other.2 split
          exact ⟨rfl, rfl⟩

theorem unrivalled_call {word : String} {args : List Derivation} (phrases : ∀ a ∈ args, IsPhrase 1 a)
    (h : ∀ a ∈ args, Unrivalled 1 a) : Unrivalled 8 (.call word args) := by
  intro d' rest rest' other _ _ same
  rcases isPhrase_primary other with ⟨t', e', rfl, atom⟩ | ⟨d', rfl, _⟩ | ⟨word', args', rfl, phrases'⟩
  · obtain ⟨rfl, _⟩ := List.cons.inj same
    cases atom
  · cases (List.cons.inj same).1
  · rw [tokens, tokens, List.append_assoc, List.append_assoc] at same
    obtain ⟨named, same⟩ := List.cons.inj same
    obtain ⟨rfl, rfl⟩ := args_unrivalled phrases h phrases' (List.cons.inj same).2
    cases named
    exact ⟨rfl, rfl⟩

theorem Yields.separable {n : Nat} {d : Derivation} {e : Expr} (h : Yields n d e) : Separable n d := by
  induction h with
  | @tighter n d e lt yields ih =>
      obtain low | rfl | rfl : n < 6 ∨ n = 6 ∨ n = 7 := by omega
      · rw [Separable, if_pos low]
        exact .tighter low ih.unrivalled
      · exact ih.unrivalled.sign_tighter ⟨e, yields⟩
      · exact ih.unrivalled.range_tighter
  | @binary n t op left right e e' at_ _ _ ih ih' =>
      have low := level_of_operator at_
      rw [Separable, if_pos low] at ih ⊢
      exact .binary at_ ih ih'.unrivalled
  | minus _ ih => exact ih.unrivalled.minus
  | plus _ ih => exact ih.unrivalled.plus
  | range _ _ ih => exact ih.unrivalled.range
  | atom atom => exact unrivalled_atom atom
  | paren _ ih => exact ih.unrivalled.paren
  | call args _ _ yields ih =>
      refine unrivalled_call (fun a mem => ?_) fun a mem => ?_
      · obtain ⟨a', mem', rfl⟩ := List.mem_map.1 mem
        exact ⟨_, yields a' mem'⟩
      · obtain ⟨a', mem', rfl⟩ := List.mem_map.1 mem
        exact (ih a' mem').unrivalled

theorem unambiguous {d d' : Derivation} {e e' : Expr} (h : Yields 1 d e) (h' : Yields 1 d' e')
    (same : d.tokens = d'.tokens) : d = d' ∧ e = e' := by
  have ends : 1 < 8 → Ends 1 [] := fun _ => Descent.ends_nil 1
  have derivations := h.separable.unrivalled d' [] [] ⟨e', h'⟩ ends ends (by rw [same])
  have read := parseWhole_eq_ok_iff.2 ⟨rfl, h.derives⟩
  rw [same, parseWhole_eq_ok_iff.2 ⟨rfl, h'.derives⟩] at read
  exact ⟨derivations.1, (Except.ok.inj read).symm⟩

end Derivation

end Spreadsheet
