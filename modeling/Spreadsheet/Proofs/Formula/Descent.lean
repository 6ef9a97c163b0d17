import Spreadsheet.Proofs.Data.Outcome
import Spreadsheet.Proofs.Formula.Grammar

namespace Spreadsheet.Descent
open Spreadsheet.Parser

def plain {α : Type} {P : List Token → Prop} (r : Except FormulaFault (α × { ts : List Token // P ts })) :
    Except FormulaFault (α × List Token) :=
  r.map fun p => (p.1, p.2.val)

variable {α β : Type} {P Q : List Token → Prop}

@[simp] theorem plain_ok (a : α) (rest : { ts : List Token // P ts }) :
    plain (.ok (a, rest)) = .ok (a, rest.val) := rfl

@[simp] theorem plain_pure (a : α) (rest : { ts : List Token // P ts }) :
    plain (pure (a, rest)) = .ok (a, rest.val) := rfl

@[simp] theorem plain_error (fault : FormulaFault) :
    plain (.error fault : Except FormulaFault (α × { ts : List Token // P ts })) = .error fault := rfl

theorem plain_bind (r : Except FormulaFault (α × { ts : List Token // P ts }))
    (k : α × { ts : List Token // P ts } → Except FormulaFault (β × { ts : List Token // Q ts }))
    (k' : α × List Token → Except FormulaFault (β × List Token))
    (same : ∀ a rest, plain (k (a, rest)) = k' (a, rest.val)) :
    plain (r >>= k) = plain r >>= k' := by
  cases r with
  | error fault => rfl
  | ok p => exact same p.1 p.2

theorem plain_settle (fault : Option ParseFault) (rest : List Token)
    (k : Except FormulaFault (α × { ts : List Token // P ts })) :
    plain (settle fault rest >>= fun _ => k) = settle fault rest >>= fun _ => plain k := by
  cases settle fault rest <;> rfl

theorem property_of_plain {r : Except FormulaFault (α × { ts : List Token // P ts })} {a : α}
    {rest : List Token} (h : plain r = .ok (a, rest)) : P rest := by
  cases r with
  | error fault => cases h
  | ok p =>
      obtain ⟨a', rest', left⟩ := p
      simp only [plain_ok, Except.ok.injEq, Prod.mk.injEq] at h
      obtain ⟨-, rfl⟩ := h
      exact left

variable (fault : Option ParseFault)

def level (n : Nat) (ts : List Token) := plain (parseLevel fault n ts)
def operators (n : Nat) (left : Expr) (ts : List Token) := plain (parseOperators fault n left ts)
def sign (ts : List Token) := plain (parseSign fault ts)
def range (ts : List Token) := plain (parseRange fault ts)
def primary (ts : List Token) := plain (parsePrimary fault ts)
def args (ts : List Token) := plain (parseArgs fault ts)
def moreArgs (ts : List Token) := plain (parseMoreArgs fault ts)
def close (ts : List Token) := plain (parseClose fault ts)
def rangeEnd (e : Expr) (ts : List Token) := plain (parseRangeEnd fault e ts)

theorem level_eq (n : Nat) (ts : List Token) :
    level fault n ts =
      if n < 6 then do
        let (left, rest) ← level fault (n + 1) ts
        operators fault n left rest
      else sign fault ts := by
  rw [level, parseLevel]
  split
  · apply plain_bind
    intro left rest
    simp only [operators]
    generalize parseOperators fault n left rest.val = r
    cases r <;> rfl
  · rfl

theorem operators_nil (n : Nat) (left : Expr) : operators fault n left [] = .ok (left, []) := by
  rw [operators, parseOperators]
  rfl

theorem operators_cons (n : Nat) (left : Expr) (t : Token) (rest : List Token) :
    operators fault n left (t :: rest) =
      match t.operatorAt? n with
      | some op => do
        settle fault rest
        let (right, rest) ← level fault (n + 1) rest
        operators fault n (.binary op left right) rest
      | none => .ok (left, t :: rest) := by
  rw [operators, parseOperators]
  cases t.operatorAt? n with
  | none => rfl
  | some op =>
      dsimp only
      rw [plain_settle]
      refine congrArg _ (funext fun _ => plain_bind _ _ _ fun right rest' => ?_)
      simp only [operators]
      generalize parseOperators fault n (.binary op left right) rest'.val = r
      cases r <;> rfl

theorem sign_minus (rest : List Token) :
    sign fault (.minus :: rest) = do
      settle fault rest
      let (e, rest) ← sign fault rest
      return (negated e, rest) := by
  rw [sign, parseSign, plain_settle]
  refine congrArg _ (funext fun _ => plain_bind _ _ _ fun e rest' => rfl)

theorem sign_plus (rest : List Token) :
    sign fault (.plus :: rest) = (settle fault rest >>= fun _ => sign fault rest) := by
  rw [sign, parseSign, plain_settle]
  refine congrArg _ (funext fun _ => ?_)
  simp only [sign]
  generalize parseSign fault rest = r
  cases r <;> rfl

theorem sign_other {ts : List Token} (minus : ts.head? ≠ some .minus) (plus : ts.head? ≠ some .plus) :
    sign fault ts = range fault ts := by
  rw [sign, parseSign]
  · rfl
  · rintro rest rfl
    exact minus rfl
  · rintro rest rfl
    exact plus rfl

theorem range_eq (ts : List Token) :
    range fault ts = do
      let (e, rest) ← primary fault ts
      match rest with
      | .colon :: rest => do
        settle fault rest
        rangeEnd fault e rest
      | rest => return (e, rest) := by
  rw [range, parseRange]
  refine plain_bind _ _ _ fun e rest => ?_
  obtain ⟨_ | ⟨t, rest⟩, fewer⟩ := rest
  · rfl
  · cases t
    case colon =>
      dsimp only
      rw [plain_settle]
      refine congrArg _ (funext fun _ => ?_)
      simp only [rangeEnd]
      generalize parseRangeEnd fault e rest = r
      cases r <;> rfl
    all_goals rfl

theorem settle_eq_ok {rest : List Token} :
    settle fault rest = .ok () ↔ rest = [] → fault = none := by
  cases rest <;> cases fault <;> simp [settle]

theorem rangeEnd_eq_ok {e e' : Expr} {ts rest : List Token} :
    rangeEnd fault e ts = .ok (e', rest) ↔
      ∃ first word last, e = .cell first ∧ ts = .cell word :: rest ∧
        (rest = [] → fault = none) ∧ parseRef word = .ok last ∧
        e' = .range (.between first last) := by
  constructor
  · intro h
    unfold rangeEnd parseRangeEnd at h
    split at h
    · rename_i first
      split at h
      · rename_i word rest'
        rw [plain_settle, bind_eq_ok] at h
        obtain ⟨_, settled, h⟩ := h
        cases parsed : parseRef word with
        | error cause => simp [parsed, bind, Except.bind] at h
        | ok last =>
            simp only [parsed, bind, Except.bind, plain_pure, Except.ok.injEq, Prod.mk.injEq] at h
            obtain ⟨rfl, rfl⟩ := h
            exact ⟨first, word, last, rfl, rfl, (settle_eq_ok fault).1 settled, parsed, rfl⟩
      · rw [plain_settle, bind_eq_ok] at h
        obtain ⟨_, _, h⟩ := h
        cases h
    · cases h
  · rintro ⟨first, word, last, rfl, rfl, settled, parsed, rfl⟩
    rw [rangeEnd, parseRangeEnd, plain_settle, (settle_eq_ok fault).2 settled]
    simp [parsed, bind, Except.bind]

theorem close_eq_ok {ts rest : List Token} :
    close fault ts = .ok ((), rest) ↔ ts = .rightParen :: rest ∧ (rest = [] → fault = none) := by
  constructor
  · intro h
    unfold close parseClose at h
    split at h
    · rw [plain_settle, bind_eq_ok] at h
      obtain ⟨_, settled, h⟩ := h
      cases h
      exact ⟨rfl, (settle_eq_ok fault).1 settled⟩
    · cases h
  · rintro ⟨rfl, settled⟩
    rw [close, parseClose, plain_settle, (settle_eq_ok fault).2 settled]
    rfl

theorem args_rightParen (rest : List Token) :
    args fault (.rightParen :: rest) = .ok ([], .rightParen :: rest) := by
  rw [args, parseArgs]
  rfl

theorem args_other {ts : List Token} (other : ts.head? ≠ some .rightParen) :
    args fault ts = do
      let (e, rest) ← level fault 1 ts
      let (es, rest) ← moreArgs fault rest
      return (e :: es, rest) := by
  rw [args, parseArgs]
  · exact plain_bind _ _ _ fun e rest => plain_bind _ _ _ fun es rest => rfl
  · rintro rest rfl
    exact other rfl

theorem moreArgs_comma (rest : List Token) :
    moreArgs fault (.comma :: rest) = do
      settle fault rest
      let (e, rest) ← level fault 1 rest
      let (es, rest) ← moreArgs fault rest
      return (e :: es, rest) := by
  rw [moreArgs, parseMoreArgs, plain_settle]
  refine congrArg _ (funext fun _ => ?_)
  exact plain_bind _ _ _ fun e rest => plain_bind _ _ _ fun es rest => rfl

theorem moreArgs_other {ts : List Token} (other : ts.head? ≠ some .comma) :
    moreArgs fault ts = .ok ([], ts) := by
  rw [moreArgs, parseMoreArgs]
  · rfl
  · rintro rest rfl
    exact other rfl

def call (word : String) (rest : List Token) : Except FormulaFault (Expr × List Token) :=
  match rest with
  | .leftParen :: inside =>
    match Builtin.ofName? word with
    | none => .error (.unknownFunction (String.ofList (word.toList.map Char.toUpper)))
    | some f => do
      settle fault inside
      let (es, rest) ← args fault inside
      let (_, rest) ← close fault rest
      if f.arity.Allows es.length then return (.call f.name es, rest)
      else .error (.argumentCount f es.length)
  | _ => .error (.unparsable (.unknownName word))

theorem primary_nil : primary fault [] = .error (.unparsable .unexpectedEnd) := by
  rw [primary, parsePrimary]
  rfl

theorem primary_cons (t : Token) (rest : List Token) :
    primary fault (t :: rest) = (do
      settle fault rest
      match t with
      | .number x => .ok (.number x, rest)
      | .text s => .ok (.text s, rest)
      | .boolean b => .ok (.boolean b, rest)
      | .error code => .ok (.error code, rest)
      | .cell word =>
        let ref ← parseRef word
        return (.cell ref, rest)
      | .leftParen =>
        let (e, rest) ← level fault 1 rest
        let (_, rest) ← close fault rest
        return (e, rest)
      | .name word => call fault word rest
      | .rightParen => .error (.unparsable .strayParen)
      | t => .error (.unparsable (.unexpectedToken t))) := by
  unfold primary parsePrimary
  dsimp only
  rw [plain_settle]
  refine congrArg _ (funext fun _ => ?_)
  cases t
  case cell word =>
    dsimp only
    cases parseRef word <;> rfl
  case leftParen => exact plain_bind _ _ _ fun e rest => plain_bind _ _ _ fun _ rest => rfl
  case name word =>
    dsimp only
    split
    · unfold call
      dsimp only
      cases Builtin.ofName? word with
      | none => rfl
      | some f =>
          dsimp only
          rw [plain_settle]
          refine congrArg _ (funext fun _ => plain_bind _ _ _ fun es rest => ?_)
          refine plain_bind _ _ _ fun _ rest => ?_
          split <;> rfl
    · rename_i other
      unfold call
      split
      · exact absurd rfl (other _)
      · rfl
  all_goals rfl

end Spreadsheet.Descent
