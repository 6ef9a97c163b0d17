import Spreadsheet.Proofs.Formula.Soundness

namespace Spreadsheet.Descent
open Spreadsheet.Parser

/-- What follows extends no phrase of the level: no colon, and no operator of the level or of a
tighter one. -/
def Ends (n : Nat) (rest : List Token) : Prop :=
  ∀ t, rest.head? = some t → t ≠ .colon ∧ ∀ op, t.binaryOp? = some op → op.level < n

theorem ends_nil (n : Nat) : Ends n [] := nofun

theorem Ends.mono {m n : Nat} {rest : List Token} (h : Ends m rest) (le : m ≤ n) : Ends n rest :=
  fun t head => ⟨(h t head).1, fun op is => Nat.lt_of_lt_of_le ((h t head).2 op is) le⟩

theorem ends_of_not_operator {t : Token} {rest : List Token} (n : Nat) (colon : t ≠ .colon)
    (none : t.binaryOp? = none) : Ends n (t :: rest) := by
  intro t' head
  cases head
  exact ⟨colon, fun op is => by rw [none] at is; cases is⟩

theorem operatorAt?_eq_some {n : Nat} {t : Token} {op : BinaryOp} (h : t.operatorAt? n = some op) :
    t.binaryOp? = some op ∧ op.level = n := by
  rw [Token.operatorAt?, Option.filter_eq_some_iff] at h
  simpa using h

theorem level_lt_six (op : BinaryOp) : op.level < 6 := by cases op <;> decide

theorem binaryOp?_ne_colon {t : Token} {op : BinaryOp} (h : t.binaryOp? = some op) : t ≠ .colon := by
  rintro rfl
  cases h

theorem operators_of_ends {n : Nat} {rest : List Token} (ends : Ends n rest) (left : Expr) :
    operators none n left rest = .ok (left, rest) := by
  cases rest with
  | nil => exact operators_nil none n left
  | cons t rest =>
      rw [operators_cons]
      have stop : t.operatorAt? n = none := by
        rw [Option.eq_none_iff_forall_ne_some]
        intro op at_
        obtain ⟨is, level⟩ := operatorAt?_eq_some at_
        exact absurd level (Nat.ne_of_lt ((ends t rfl).2 op is))
      rw [stop]

theorem settle_none (rest : List Token) : settle none rest = .ok () :=
  (settle_eq_ok none).2 fun _ => rfl

def ReadsWhole : Nat → List Token → Expr → Prop
  | 8, ts, e => ∀ rest, primary none (ts ++ rest) = .ok (e, rest)
  | 7, ts, e => ∀ rest, Ends 6 rest → range none (ts ++ rest) = .ok (e, rest)
  | 6, ts, e => ∀ rest, Ends 6 rest → sign none (ts ++ rest) = .ok (e, rest)
  | n, ts, e => n < 6 → ∀ rest, Ends (n + 1) rest →
      level none n (ts ++ rest) = operators none n e rest

theorem readsWhole_iff_of_lt {n : Nat} (low : n < 6) {ts : List Token} {e : Expr} :
    ReadsWhole n ts e ↔
      ∀ rest, Ends (n + 1) rest → level none n (ts ++ rest) = operators none n e rest := by
  rw [ReadsWhole]
  · exact ⟨fun h => h low, fun h _ => h⟩
  all_goals omega

theorem ReadsWhole.level {n : Nat} {ts rest : List Token} {e : Expr} (h : ReadsWhole n ts e)
    (bound : n ≤ 6) (ends : Ends n rest) : level none n (ts ++ rest) = .ok (e, rest) := by
  rcases Nat.lt_or_eq_of_le bound with lt | rfl
  · rw [(readsWhole_iff_of_lt lt).1 h rest (ends.mono (Nat.le_succ n)), operators_of_ends ends]
  · rw [level_eq, if_neg (Nat.lt_irrefl 6)]
    exact h rest ends

theorem close_rightParen (rest : List Token) : close none (.rightParen :: rest) = .ok ((), rest) :=
  (close_eq_ok none).2 ⟨rfl, fun _ => rfl⟩

theorem ends_rightParen (n : Nat) (rest : List Token) : Ends n (.rightParen :: rest) :=
  ends_of_not_operator n nofun rfl

theorem ends_comma (n : Nat) (rest : List Token) : Ends n (.comma :: rest) :=
  ends_of_not_operator n nofun rfl

theorem ends_moreArgs (parts : List (List Token × Expr)) (rest : List Token) :
    Ends 1 ((parts.flatMap fun a => .comma :: a.1) ++ .rightParen :: rest) := by
  cases parts with
  | nil => exact ends_rightParen 1 rest
  | cons a parts => exact ends_comma 1 _

theorem moreArgs_whole (parts : List (List Token × Expr)) (rest : List Token)
    (all : ∀ a ∈ parts, ReadsWhole 1 a.1 a.2) :
    moreArgs none ((parts.flatMap fun a => .comma :: a.1) ++ .rightParen :: rest) =
      .ok (parts.map (·.2), .rightParen :: rest) := by
  induction parts with
  | nil => exact moreArgs_other none (by simp)
  | cons a parts ih =>
      have first := all a List.mem_cons_self
      have others := ih fun b mem => all b (List.mem_cons_of_mem a mem)
      rw [List.flatMap_cons, List.cons_append, List.cons_append, List.append_assoc, moreArgs_comma,
        settle_none, ok_bind, first.level (by omega) (ends_moreArgs parts rest), ok_bind]
      dsimp only
      rw [others]
      rfl

theorem commaJoined_eq (a : List Token) (rest : List (List Token)) :
    commaJoined (a :: rest) = a ++ rest.flatMap fun ts => .comma :: ts := by
  induction rest generalizing a with
  | nil => simp [commaJoined]
  | cons b rest ih => rw [commaJoined_cons (by simp), ih, List.flatMap_cons, List.cons_append]

theorem args_whole (parts : List (List Token × Expr)) (rest : List Token)
    (all : ∀ a ∈ parts, Derives 1 a.1 a.2 ∧ ReadsWhole 1 a.1 a.2) :
    args none (commaJoined (parts.map (·.1)) ++ .rightParen :: rest) =
      .ok (parts.map (·.2), .rightParen :: rest) := by
  cases parts with
  | nil => exact args_rightParen none rest
  | cons a parts =>
      obtain ⟨derives, first⟩ := all a List.mem_cons_self
      have others := moreArgs_whole parts rest fun b mem => (all b (List.mem_cons_of_mem a mem)).2
      obtain ⟨t, tail, eq, opens⟩ := derives.head
      rw [List.map_cons, commaJoined_eq, List.flatMap_map, List.append_assoc, args_other none,
        first.level (by omega) (ends_moreArgs parts rest), ok_bind]
      · dsimp only
        rw [others]
        rfl
      · rw [eq]
        simp only [List.cons_append, List.head?_cons, ne_eq, Option.some.injEq]
        rintro rfl
        simp [Derives.Opens] at opens

theorem level_of_operator {n : Nat} {t : Token} {op : BinaryOp} (h : t.operatorAt? n = some op) :
    n < 6 := by
  obtain ⟨-, rfl⟩ := operatorAt?_eq_some h
  exact level_lt_six op

theorem ends_operator {n m : Nat} {t : Token} {op : BinaryOp} (h : t.operatorAt? n = some op)
    (lt : n < m) (rest : List Token) : Ends m (t :: rest) := by
  obtain ⟨is, rfl⟩ := operatorAt?_eq_some h
  intro t' head
  cases head
  refine ⟨binaryOp?_ne_colon is, fun op' is' => ?_⟩
  rw [is, Option.some.injEq] at is'
  exact is' ▸ lt

theorem ReadsWhole.tighter {n : Nat} {ts : List Token} {e : Expr} (lt : n < 8)
    (derives : Derives (n + 1) ts e) (h : ReadsWhole (n + 1) ts e) : ReadsWhole n ts e := by
  obtain low | rfl | rfl : n < 6 ∨ n = 6 ∨ n = 7 := by omega
  · -- A tighter phrase is the left operand with which the loop of this level begins.
    rw [readsWhole_iff_of_lt low]
    intro rest ends
    rw [level_eq, if_pos low, h.level low ends, ok_bind]
  · intro rest ends
    obtain ⟨t, tail, rfl, opens | ⟨le, -⟩⟩ := derives.head
    · rw [List.cons_append, sign_other none, ← List.cons_append]
      · exact h rest ends
      all_goals
        simp only [List.head?_cons, ne_eq, Option.some.injEq]
        rintro rfl
        exact opens
    · omega
  · intro rest ends
    rw [range_eq, h rest, ok_bind]
    dsimp only
    split
    · exact absurd rfl (ends _ rfl).1
    · rfl

theorem ReadsWhole.binary {n : Nat} {t : Token} {op : BinaryOp} {ts ts' : List Token} {e e' : Expr}
    (at_ : t.operatorAt? n = some op) (left : ReadsWhole n ts e) (right : ReadsWhole (n + 1) ts' e') :
    ReadsWhole n (ts ++ t :: ts') (.binary op e e') := by
  have low := level_of_operator at_
  rw [readsWhole_iff_of_lt low] at left ⊢
  intro rest ends
  rw [List.append_assoc, List.cons_append, left _ (ends_operator at_ (Nat.lt_succ_self n) _),
    operators_cons, at_]
  dsimp only
  rw [settle_none, ok_bind, right.level low ends, ok_bind]

theorem reads_whole {n : Nat} {ts : List Token} {e : Expr} (h : Derives n ts e) :
    ReadsWhole n ts e := by
  induction h with
  | tighter lt derives ih => exact .tighter lt derives ih
  | binary at_ _ _ ih ih' => exact .binary at_ ih ih'
  | minus _ ih =>
      intro rest ends
      rw [List.cons_append, sign_minus, settle_none, ok_bind, ih rest ends]
      rfl
  | plus _ ih =>
      intro rest ends
      rw [List.cons_append, sign_plus, settle_none, ok_bind, ih rest ends]
  | @range ts first last word _ parsed ih =>
      intro rest ends
      rw [List.append_assoc, range_eq, ih, ok_bind]
      dsimp only [List.cons_append, List.nil_append]
      rw [settle_none, ok_bind]
      exact (rangeEnd_eq_ok none).2 ⟨first, word, last, rfl, rfl, fun _ => rfl, parsed, rfl⟩
  | number => exact fun rest => by rw [List.singleton_append, primary_cons, settle_none]; rfl
  | text => exact fun rest => by rw [List.singleton_append, primary_cons, settle_none]; rfl
  | boolean => exact fun rest => by rw [List.singleton_append, primary_cons, settle_none]; rfl
  | error => exact fun rest => by rw [List.singleton_append, primary_cons, settle_none]; rfl
  | cell parsed =>
      intro rest
      rw [List.singleton_append, primary_cons, settle_none, ok_bind]
      dsimp only
      rw [parsed]
      rfl
  | @paren ts e _ ih =>
      intro rest
      rw [List.append_assoc, List.cons_append, primary_cons, settle_none, ok_bind]
      dsimp only [List.singleton_append]
      rw [ih.level (by omega) (ends_rightParen 1 rest), ok_bind]
      dsimp only
      rw [close_rightParen]
      rfl
  | @call word f parts named allowed derives ih =>
      intro rest
      rw [List.append_assoc, List.cons_append, List.cons_append, primary_cons, settle_none, ok_bind]
      dsimp only [List.singleton_append]
      rw [call]
      dsimp only
      rw [named]
      dsimp only
      rw [settle_none, ok_bind, args_whole parts rest fun a mem => ⟨derives a mem, ih a mem⟩, ok_bind]
      dsimp only
      rw [close_rightParen, ok_bind]
      dsimp only
      rw [if_pos (by simpa using allowed)]
      rfl

theorem parseWhole_eq_ok_iff {fault : Option ParseFault} {ts : List Token} {e : Expr} :
    parseWhole fault ts = .ok e ↔ fault = none ∧ Derives 1 ts e := by
  constructor
  · intro h
    unfold parseWhole at h
    rw [bind_eq_ok] at h
    obtain ⟨_, _, h⟩ := h
    rw [bind_eq_ok] at h
    obtain ⟨⟨e', rest, shorter⟩, hl, h⟩ := h
    have plainly : level fault 1 ts = .ok (e', rest) := by rw [level, hl, plain_ok]
    obtain ⟨used, rfl, derives, passed⟩ := level_sound (by omega) plainly
    cases rest with
    | nil =>
        cases h
        exact ⟨passed rfl, by simpa using derives⟩
    | cons t rest => cases t <;> cases h
  · rintro ⟨rfl, derives⟩
    have whole := (reads_whole derives).level (by omega) (ends_nil 1)
    rw [List.append_nil, level] at whole
    unfold parseWhole
    rw [settle_none, ok_bind]
    cases hl : parseLevel none 1 ts with
    | error cause => rw [hl] at whole; cases whole
    | ok p =>
        obtain ⟨e', rest, shorter⟩ := p
        rw [hl, plain_ok] at whole
        cases whole
        rfl

end Spreadsheet.Descent
