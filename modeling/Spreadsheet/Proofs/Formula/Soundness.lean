import Spreadsheet.Proofs.Formula.Descent

namespace Spreadsheet.Descent
open Spreadsheet.Parser

variable {fault : Option ParseFault}

def Passed (fault : Option ParseFault) (rest : List Token) : Prop := rest = [] → fault = none

theorem passed_cons {t : Token} {rest : List Token} : Passed fault (t :: rest) := nofun

def Reads (fault : Option ParseFault) (n : Nat) (ts : List Token) (e : Expr) (rest : List Token) : Prop :=
  ∃ used, ts = used ++ rest ∧ Derives n used e ∧ Passed fault rest

theorem Reads.looser {m n : Nat} {ts rest : List Token} {e : Expr} (h : Reads fault n ts e rest)
    (le : m ≤ n) (bound : n ≤ 8) : Reads fault m ts e rest := by
  obtain ⟨used, rfl, derives, passed⟩ := h
  exact ⟨used, rfl, derives.looser le bound, passed⟩

def ReadsArgs (fault : Option ParseFault) (ts : List Token) (es : List Expr) (rest : List Token) : Prop :=
  ∃ parts : List (List Token × Expr), ts = commaJoined (parts.map (·.1)) ++ rest ∧
    es = parts.map (·.2) ∧ (∀ a ∈ parts, Derives 1 a.1 a.2) ∧ Passed fault rest

def ReadsOperators (fault : Option ParseFault) (n : Nat) (left : Expr) (ts : List Token) (e : Expr)
    (rest : List Token) : Prop :=
  ∃ used, ts = used ++ rest ∧ Passed fault rest ∧
    ∀ front, Derives n front left → Derives n (front ++ used) e

theorem level_shorter {n : Nat} {ts rest : List Token} {e : Expr}
    (h : level fault n ts = .ok (e, rest)) : rest.length < ts.length :=
  property_of_plain h

mutual

theorem level_sound {n : Nat} (bound : n ≤ 6) {ts rest : List Token} {e : Expr}
    (h : level fault n ts = .ok (e, rest)) : Reads fault n ts e rest := by
  rw [level_eq] at h
  split at h
  · rename_i low
    rw [bind_eq_ok] at h
    obtain ⟨⟨left, rest'⟩, hl, h⟩ := h
    have shorter := level_shorter hl
    obtain ⟨used, rfl, derives, passed⟩ := level_sound low hl
    obtain ⟨used', rfl, passed', extend⟩ := operators_sound low passed h
    exact ⟨used ++ used', by simp, extend used (.tighter (by omega) derives), passed'⟩
  · exact (sign_sound h).looser bound (by omega)
termination_by (ts.length, 4 + (6 - n))

theorem operators_sound {n : Nat} (bound : n < 6) {left e : Expr} {ts rest : List Token}
    (passed : Passed fault ts) (h : operators fault n left ts = .ok (e, rest)) :
    ReadsOperators fault n left ts e rest := by
  cases ts with
  | nil =>
      rw [operators_nil] at h
      cases h
      exact ⟨[], rfl, passed, fun front derives => by simpa using derives⟩
  | cons t ts =>
      rw [operators_cons] at h
      split at h
      · rename_i op at_
        rw [bind_eq_ok] at h
        obtain ⟨_, _, h⟩ := h
        rw [bind_eq_ok] at h
        obtain ⟨⟨right, rest'⟩, hr, h⟩ := h
        have shorter := level_shorter hr
        obtain ⟨used, rfl, derives, passed'⟩ := level_sound bound hr
        obtain ⟨used', rfl, passed'', extend⟩ := operators_sound bound passed' h
        refine ⟨t :: used ++ used', by simp, passed'', fun front leftDerives => ?_⟩
        -- The operand on the left grows by one operator, which makes the level left-associative.
        simpa using extend (front ++ t :: used) (.binary at_ leftDerives derives)
      · cases h
        exact ⟨[], rfl, passed, fun front derives => by simpa using derives⟩
termination_by (ts.length, 0)

theorem sign_sound {ts rest : List Token} {e : Expr} (h : sign fault ts = .ok (e, rest)) :
    Reads fault 6 ts e rest := by
  by_cases minus : ts.head? = some .minus
  · obtain ⟨ts, rfl⟩ := List.head?_eq_some_iff.1 minus
    rw [sign_minus, bind_eq_ok] at h
    obtain ⟨_, _, h⟩ := h
    rw [bind_eq_ok] at h
    obtain ⟨⟨e', rest'⟩, hs, h⟩ := h
    cases h
    obtain ⟨used, rfl, derives, passed⟩ := sign_sound hs
    exact ⟨.minus :: used, rfl, .minus derives, passed⟩
  by_cases plus : ts.head? = some .plus
  · obtain ⟨ts, rfl⟩ := List.head?_eq_some_iff.1 plus
    rw [sign_plus, bind_eq_ok] at h
    obtain ⟨_, _, h⟩ := h
    obtain ⟨used, rfl, derives, passed⟩ := sign_sound h
    exact ⟨.plus :: used, rfl, .plus derives, passed⟩
  rw [sign_other fault minus plus] at h
  exact (range_sound h).looser (by omega) (by omega)
termination_by (ts.length, 3)

theorem range_sound {ts rest : List Token} {e : Expr} (h : range fault ts = .ok (e, rest)) :
    Reads fault 7 ts e rest := by
  rw [range_eq, bind_eq_ok] at h
  obtain ⟨⟨e', rest'⟩, hp, h⟩ := h
  obtain ⟨used, rfl, derives, passed⟩ := primary_sound hp
  dsimp only at h
  split at h
  · rw [bind_eq_ok] at h
    obtain ⟨_, _, h⟩ := h
    obtain ⟨first, word, last, rfl, rfl, passed', parsed, rfl⟩ := (rangeEnd_eq_ok fault).1 h
    exact ⟨used ++ [.colon, .cell word], by simp, .range derives parsed, passed'⟩
  · cases h
    exact ⟨used, rfl, .tighter (by omega) derives, passed⟩
termination_by (ts.length, 2)

theorem primary_sound {ts rest : List Token} {e : Expr} (h : primary fault ts = .ok (e, rest)) :
    Reads fault 8 ts e rest := by
  cases ts with
  | nil =>
      rw [primary_nil] at h
      cases h
  | cons t ts =>
      rw [primary_cons, bind_eq_ok] at h
      obtain ⟨_, settled, h⟩ := h
      have passed := (settle_eq_ok fault).1 settled
      cases t <;> dsimp only at h
      case number x => cases h; exact ⟨[.number x], rfl, .number x, passed⟩
      case text s => cases h; exact ⟨[.text s], rfl, .text s, passed⟩
      case boolean b => cases h; exact ⟨[.boolean b], rfl, .boolean b, passed⟩
      case error code => cases h; exact ⟨[.error code], rfl, .error code, passed⟩
      case cell word =>
        rw [bind_eq_ok] at h
        obtain ⟨ref, parsed, h⟩ := h
        cases h
        exact ⟨[.cell word], rfl, .cell parsed, passed⟩
      case leftParen =>
        rw [bind_eq_ok] at h
        obtain ⟨⟨e', rest'⟩, hl, h⟩ := h
        rw [bind_eq_ok] at h
        obtain ⟨⟨_, rest''⟩, hc, h⟩ := h
        cases h
        obtain ⟨used, rfl, derives, -⟩ := level_sound (by omega) hl
        obtain ⟨rfl, passed'⟩ := (close_eq_ok fault).1 hc
        exact ⟨.leftParen :: used ++ [.rightParen], by simp, .paren derives, passed'⟩
      case name word =>
        exact call_sound h
      all_goals cases h
termination_by (ts.length, 1)

theorem call_sound {word : String} {ts rest : List Token} {e : Expr}
    (h : call fault word ts = .ok (e, rest)) : Reads fault 8 (.name word :: ts) e rest := by
  unfold call at h
  split at h
  · split at h
    · cases h
    · rename_i inside f named
      rw [bind_eq_ok] at h
      obtain ⟨_, _, h⟩ := h
      rw [bind_eq_ok] at h
      obtain ⟨⟨es, rest'⟩, ha, h⟩ := h
      rw [bind_eq_ok] at h
      obtain ⟨⟨_, rest''⟩, hc, h⟩ := h
      obtain ⟨rfl, passed⟩ := (close_eq_ok fault).1 hc
      obtain ⟨parts, rfl, rfl, derives, -⟩ := args_sound ha
      dsimp only at h
      split at h
      · rename_i allowed
        cases h
        exact ⟨.name word :: .leftParen :: commaJoined (parts.map (·.1)) ++ [.rightParen],
          by simp, .call parts named (by simpa using allowed) derives, passed⟩
      · cases h
  · cases h
termination_by (ts.length, 0)

theorem args_sound {ts rest : List Token} {es : List Expr} (h : args fault ts = .ok (es, rest)) :
    ReadsArgs fault ts es rest := by
  by_cases none : ts.head? = some .rightParen
  · obtain ⟨ts, rfl⟩ := List.head?_eq_some_iff.1 none
    rw [args_rightParen] at h
    cases h
    exact ⟨[], rfl, rfl, nofun, passed_cons⟩
  · rw [args_other fault none, bind_eq_ok] at h
    obtain ⟨⟨e, rest'⟩, hl, h⟩ := h
    rw [bind_eq_ok] at h
    obtain ⟨⟨es', rest''⟩, hm, h⟩ := h
    cases h
    have shorter := level_shorter hl
    obtain ⟨used, rfl, derives, passed⟩ := level_sound (by omega) hl
    exact moreArgs_sound passed hm used e derives
termination_by (ts.length, 20)

theorem moreArgs_sound {ts rest : List Token} {es : List Expr} (passed : Passed fault ts)
    (h : moreArgs fault ts = .ok (es, rest)) (front : List Token) (e : Expr)
    (derives : Derives 1 front e) : ReadsArgs fault (front ++ ts) (e :: es) rest := by
  by_cases more : ts.head? = some .comma
  · obtain ⟨ts, rfl⟩ := List.head?_eq_some_iff.1 more
    rw [moreArgs_comma, bind_eq_ok] at h
    obtain ⟨_, _, h⟩ := h
    rw [bind_eq_ok] at h
    obtain ⟨⟨e', rest'⟩, hl, h⟩ := h
    rw [bind_eq_ok] at h
    obtain ⟨⟨es', rest''⟩, hm, h⟩ := h
    cases h
    have shorter := level_shorter hl
    obtain ⟨used, rfl, derives', passed'⟩ := level_sound (by omega) hl
    obtain ⟨parts, split, trees, all, passed''⟩ := moreArgs_sound passed' hm used e' derives'
    have nonempty : parts.map (·.1) ≠ [] := by
      intro none
      rw [List.map_eq_nil_iff.1 none] at trees
      cases trees
    refine ⟨(front, e) :: parts, ?_, by simp [trees], ?_, passed''⟩
    · rw [List.map_cons, commaJoined_cons nonempty, split, List.append_assoc, List.cons_append]
    · exact List.forall_mem_cons.2 ⟨derives, all⟩
  · rw [moreArgs_other fault more] at h
    cases h
    exact ⟨[(front, e)], rfl, rfl, by simpa using derives, passed⟩
termination_by (ts.length, 0)

end

end Spreadsheet.Descent
