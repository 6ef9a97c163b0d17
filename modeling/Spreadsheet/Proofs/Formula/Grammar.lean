import Spreadsheet.Formula.Parser

namespace Spreadsheet
open Spreadsheet.Parser (negated parseRef)

def commaJoined : List (List Token) → List Token
  | [] => []
  | [ts] => ts
  | ts :: rest => ts ++ .comma :: commaJoined rest

theorem commaJoined_cons {ts : List Token} {rest : List (List Token)} (more : rest ≠ []) :
    commaJoined (ts :: rest) = ts ++ .comma :: commaJoined rest := by
  cases rest with
  | nil => exact absurd rfl more
  | cons => rfl

inductive Derives : Nat → List Token → Expr → Prop
  | tighter {n : Nat} {ts : List Token} {e : Expr} :
      n < 8 → Derives (n + 1) ts e → Derives n ts e
  | binary {n : Nat} {t : Token} {op : BinaryOp} {ts ts' : List Token} {e e' : Expr} :
      t.operatorAt? n = some op → Derives n ts e → Derives (n + 1) ts' e' →
      Derives n (ts ++ t :: ts') (.binary op e e')
  | minus {ts : List Token} {e : Expr} : Derives 6 ts e → Derives 6 (.minus :: ts) (negated e)
  | plus {ts : List Token} {e : Expr} : Derives 6 ts e → Derives 6 (.plus :: ts) e
  | range {ts : List Token} {first last : CellRef} {word : String} :
      Derives 8 ts (.cell first) → parseRef word = .ok last →
      Derives 7 (ts ++ [.colon, .cell word]) (.range (.between first last))
  | number (x : Float) : Derives 8 [.number x] (.number x)
  | text (s : String) : Derives 8 [.text s] (.text s)
  | boolean (b : Bool) : Derives 8 [.boolean b] (.boolean b)
  | error (code : ErrorCode) : Derives 8 [.error code] (.error code)
  | cell {word : String} {ref : CellRef} :
      parseRef word = .ok ref → Derives 8 [.cell word] (.cell ref)
  | paren {ts : List Token} {e : Expr} :
      Derives 1 ts e → Derives 8 (.leftParen :: ts ++ [.rightParen]) e
  | call {word : String} {f : Builtin} (args : List (List Token × Expr)) :
      Builtin.ofName? word = some f → f.arity.Allows args.length →
      (∀ a ∈ args, Derives 1 a.1 a.2) →
      Derives 8 (.name word :: .leftParen :: commaJoined (args.map (·.1)) ++ [.rightParen])
        (.call f.name (args.map (·.2)))

namespace Derives

theorem looser {m n : Nat} {ts : List Token} {e : Expr} (h : Derives n ts e) (le : m ≤ n)
    (bound : n ≤ 8) : Derives m ts e := by
  induction n generalizing m with
  | zero =>
      obtain rfl : m = 0 := by omega
      exact h
  | succ n ih =>
      rcases Nat.lt_or_eq_of_le le with lt | rfl
      · exact ih (.tighter (by omega) h) (by omega) (by omega)
      · exact h

def Opens : Token → Prop
  | .number _ | .text _ | .boolean _ | .error _ | .cell _ | .leftParen | .name _ => True
  | _ => False

theorem head {n : Nat} {ts : List Token} {e : Expr} (h : Derives n ts e) :
    ∃ t rest, ts = t :: rest ∧ (Opens t ∨ n ≤ 6 ∧ (t = .minus ∨ t = .plus)) := by
  induction h with
  | @tighter n ts e lt _ ih =>
      obtain ⟨t, rest, rfl, opens | ⟨le, sign⟩⟩ := ih
      · exact ⟨t, rest, rfl, .inl opens⟩
      · exact ⟨t, rest, rfl, .inr ⟨by omega, sign⟩⟩
  | @binary n t op ts ts' e e' at_ _ _ ih _ =>
      obtain ⟨t', rest, rfl, first⟩ := ih
      exact ⟨t', rest ++ t :: ts', rfl, first⟩
  | @minus ts e _ _ => exact ⟨_, ts, rfl, .inr ⟨Nat.le_refl _, .inl rfl⟩⟩
  | @plus ts e _ _ => exact ⟨_, ts, rfl, .inr ⟨Nat.le_refl _, .inr rfl⟩⟩
  | @range ts first last word _ _ ih =>
      obtain ⟨t, rest, rfl, opens | ⟨le, _⟩⟩ := ih
      · exact ⟨t, rest ++ [.colon, .cell word], rfl, .inl opens⟩
      · omega
  | number => exact ⟨_, [], rfl, .inl trivial⟩
  | text => exact ⟨_, [], rfl, .inl trivial⟩
  | boolean => exact ⟨_, [], rfl, .inl trivial⟩
  | error => exact ⟨_, [], rfl, .inl trivial⟩
  | cell => exact ⟨_, [], rfl, .inl trivial⟩
  | paren => exact ⟨_, _, rfl, .inl trivial⟩
  | call => exact ⟨_, _, rfl, .inl trivial⟩

end Derives

end Spreadsheet
