import Spreadsheet.Json.Token
import Spreadsheet.Proofs.Grid.CanonicalReference
import Spreadsheet.Proofs.Text.Characters

namespace Spreadsheet.JsonToken
open Json (escapeChar hexDigit)

/-! ## Texts -/

theorem hexUnit?_control :
    ∀ n < 0x20, hexUnit? '0' '0' (hexDigit (n / 16)) (hexDigit (n % 16)) = some n := by
  decide

theorem escapeChar_cases (c : Char) :
    (∃ e, unescape? e = some c ∧ escapeChar c = ['\\', e]) ∨
    (c.toNat < 0x20 ∧
      escapeChar c = ['\\', 'u', '0', '0', hexDigit (c.toNat / 16), hexDigit (c.toNat % 16)]) ∨
    (c ≠ '"' ∧ c ≠ '\\' ∧ 0x20 ≤ c.toNat ∧ escapeChar c = [c]) := by
  unfold escapeChar
  by_cases special : c = '"' ∨ c = '\\'
  · rw [if_pos special]
    refine .inl ⟨c, ?_, rfl⟩
    rcases special with rfl | rfl <;> rfl
  rw [if_neg special]
  by_cases short : c = '\n' ∨ c = '\r' ∨ c = '\t' ∨ c = '\x08' ∨ c = '\x0c'
  · left
    rcases short with rfl | rfl | rfl | rfl | rfl
    · exact ⟨'n', rfl, rfl⟩
    · exact ⟨'r', rfl, rfl⟩
    · exact ⟨'t', rfl, rfl⟩
    · exact ⟨'b', rfl, rfl⟩
    · exact ⟨'f', rfl, rfl⟩
  simp only [not_or] at special short
  rw [if_neg short.1, if_neg short.2.1, if_neg short.2.2.1, if_neg short.2.2.2.1, if_neg short.2.2.2.2]
  by_cases control : c.toNat < 0x20
  · rw [if_pos control]
    exact .inr (.inl ⟨control, rfl⟩)
  · rw [if_neg control]
    exact .inr (.inr ⟨special.1, special.2, Nat.le_of_not_lt control, rfl⟩)

section
variable {rest : List Char} {units : List Nat} {n : Nat} (behind : readUnits rest = some (units, n))
include behind

theorem readUnits_letter {e c : Char} (letter : unescape? e = some c) :
    readUnits ('\\' :: e :: rest) = some (c.toNat :: units, n + 2) := by
  have noUnit : e ≠ 'u' := by
    rintro rfl
    cases letter
  rw [readUnits, letter, behind]
  · rfl
  · rintro _ _ _ _ _ rfl
    exact absurd rfl noUnit

theorem readUnits_visible {c : Char} (quote : c ≠ '"') (backslash : c ≠ '\\')
    (visible : 0x20 ≤ c.toNat) : readUnits (c :: rest) = some (c.toNat :: units, n + 1) := by
  rw [readUnits, if_neg quote, if_neg, behind]
  · rfl
  · rintro (same | control)
    · exact backslash same
    · exact absurd visible (Nat.not_le_of_lt control)
  · exact fun _ _ _ _ _ same => absurd same backslash
  · exact fun _ _ same => absurd same backslash

theorem readUnits_escapeChar (c : Char) :
    readUnits (escapeChar c ++ rest) = some (c.toNat :: units, n + (escapeChar c).length) := by
  rcases escapeChar_cases c with
    ⟨e, letter, text⟩ | ⟨control, text⟩ | ⟨quote, backslash, visible, text⟩
  · rw [text]
    exact readUnits_letter behind letter
  · rw [text, List.cons_append, List.cons_append, List.cons_append, List.cons_append, List.cons_append,
      List.cons_append, List.nil_append, readUnits, hexUnit?_control _ control, behind]
    rfl
  · rw [text]
    exact readUnits_visible behind quote backslash visible
end

theorem readUnits_quoted (cs rest : List Char) :
    readUnits (cs.flatMap escapeChar ++ '"' :: rest) =
      some (cs.map Char.toNat, (cs.flatMap escapeChar).length + 1) := by
  induction cs with
  | nil => rfl
  | cons c cs ih =>
      rw [List.flatMap_cons, List.append_assoc, readUnits_escapeChar ih, List.length_append,
        Nat.add_right_comm, Nat.add_comm (escapeChar c).length]
      rfl

theorem joinUnits_toNat (cs : List Char) : joinUnits (cs.map Char.toNat) = some cs := by
  induction cs with
  | nil => rfl
  | cons c cs ih =>
      have whole : isHighSurrogate c.toNat = false ∧ isLowSurrogate c.toNat = false := by
        have valid : c.toNat.isValidChar := c.valid
        simp only [Nat.isValidChar] at valid
        simp only [isHighSurrogate, isLowSurrogate, Bool.and_eq_false_iff, decide_eq_false_iff_not]
        omega
      rw [List.map_cons]
      unfold joinUnits
      rw [if_neg (by simp [whole.1]), if_neg (by simp [whole.2]), ih, Option.map_some, Char.ofNat_toNat]

/-! ## Numbers -/

def Stops (rest : List Char) : Prop :=
  ∀ c ∈ rest.head?, c.isDigit = false ∧ c ≠ '.' ∧ c ≠ 'e' ∧ c ≠ 'E'

theorem stops_nil : Stops [] := by
  intro c none
  cases none

theorem stops_separator {c : Char} (separator : c = ',' ∨ c = '\n') (rest : List Char) :
    Stops (c :: rest) := by
  intro c' first
  cases first
  rcases separator with rfl | rfl <;> decide

theorem wholeLexeme_toDigits {rest : List Char} (stops : Stops rest) (n : Nat) :
    wholeLexeme (Nat.toDigits 10 n ++ rest) = Nat.toDigits 10 n := by
  have digits := CellRef.toDigits_isDigit n
  obtain ⟨d, ds, text, digit⟩ := CellRef.head_toDigits n
  by_cases zero : n = 0
  · subst zero
    rfl
  · have first : d ≠ '0' := by
      rintro rfl
      have trimmed := toDigits_ofDigitChars digits (by
        rw [Nat.ofDigitChars_ten_toDigits]
        exact Nat.pos_of_ne_zero zero)
      rw [Nat.ofDigitChars_ten_toDigits, text, List.dropWhile_cons_of_pos rfl] at trimmed
      have shorter := (List.dropWhile_suffix (· == '0') (l := ds)).length_le
      rw [← trimmed, List.length_cons] at shorter
      exact Nat.not_succ_le_self _ shorter
    rw [text, List.cons_append, wholeLexeme, ← List.cons_append, ← text]
    · exact takeWhile_append_stop digits fun c mem => (stops c mem).1
    · exact fun _ same => first (List.cons.inj same).1

theorem scanNumber_toDigits {rest : List Char} (stops : Stops rest) {n : Nat}
    (small : n < naturalBound) :
    scanNumber (Nat.toDigits 10 n ++ rest) = some (.natural n, (Nat.toDigits 10 n).length) := by
  obtain ⟨d, ds, text, digit⟩ := CellRef.head_toDigits n
  have unsigned : (Nat.toDigits 10 n ++ rest).head? ≠ some '-' := by
    rw [text]
    rintro same
    cases same
    cases digit
  have noFraction : fractionLexeme rest = [] := by
    unfold fractionLexeme
    split
    · exact absurd rfl (stops '.' rfl).2.1
    · rfl
  have noExponent : exponentLexeme rest = [] := by
    cases rest with
    | nil => rfl
    | cons c rest =>
        obtain ⟨_, _, lower, upper⟩ := stops c rfl
        simp [exponentLexeme, lower, upper]
  have nonempty : Nat.toDigits 10 n ≠ [] := Nat.toDigits_ne_nil
  unfold scanNumber
  simp only [beq_eq_false_iff_ne.2 unsigned, Bool.false_eq_true, if_false, List.drop_zero,
    wholeLexeme_toDigits stops n, Nat.zero_add, List.drop_left, noFraction, List.length_nil,
    noExponent, nonempty, Nat.ofDigitChars_ten_toDigits, ne_eq, not_true, false_or,
    Nat.not_le_of_lt small]

/-! ## Tokens -/

theorem tokens_eq (cs : List Char) :
    tokens cs = match cs.dropWhile isBlank with
      | [] => some []
      | c :: rest => (scan c rest).bind fun (t, n) => (tokens (rest.drop n)).map (t :: ·) := by
  rw [tokens]
  split
  · rename_i front
    rw [front]
  · rename_i c rest front
    simp only [front]
    cases scan c rest <;> rfl

theorem isBlank_cases {c : Char} (blank : isBlank c = true) :
    c = ' ' ∨ c = '\n' ∨ c = '\r' ∨ c = '\t' := by
  simpa only [isBlank, Bool.or_eq_true, beq_iff_eq, or_assoc] using blank

theorem tokens_nil : tokens [] = some [] := by
  rw [tokens_eq]
  rfl

theorem tokens_blanks {blanks : List Char} (all : ∀ c ∈ blanks, isBlank c = true) (cs : List Char) :
    tokens (blanks ++ cs) = tokens cs := by
  rw [tokens_eq, tokens_eq cs, List.dropWhile_append_of_pos all]

theorem tokens_cons {c : Char} {cs rest : List Char} {t : JsonToken} {ts : List JsonToken}
    (solid : isBlank c = false) (scanned : scan c (cs ++ rest) = some (t, cs.length))
    (behind : tokens rest = some ts) : tokens (c :: cs ++ rest) = some (t :: ts) := by
  have front : (c :: cs ++ rest).dropWhile isBlank = c :: (cs ++ rest) :=
    List.dropWhile_cons_of_neg (by simp [solid])
  rw [tokens_eq, front]
  dsimp only
  rw [scanned, Option.bind_some, List.drop_left, behind]
  rfl

section
variable {rest : List Char} {ts : List JsonToken} (behind : tokens rest = some ts)
include behind

theorem tokens_newline (depth : Nat) : tokens (Json.newline depth ++ rest) = some ts := by
  rw [tokens_blanks, behind]
  intro c mem
  rcases List.mem_cons.1 mem with rfl | mem
  · rfl
  · rw [List.eq_of_mem_replicate mem]
    rfl

theorem tokens_symbol {c : Char} {t : JsonToken} (symbol : symbol? c = some t) :
    tokens (c :: rest) = some (t :: ts) := by
  have solid : isBlank c = false := by
    refine Bool.eq_false_iff.2 fun blank => ?_
    rcases isBlank_cases blank with rfl | rfl | rfl | rfl <;> cases symbol
  show tokens (c :: [] ++ rest) = _
  refine tokens_cons solid ?_ behind
  rw [scan, symbol]
  rfl

theorem tokens_quote (s : String) :
    tokens (Json.quote (some s) ++ rest) = some (.text (some s) :: ts) := by
  show tokens ('"' :: (s.toList.flatMap escapeChar ++ ['"']) ++ rest) = _
  refine tokens_cons rfl ?_ behind
  rw [List.append_assoc, List.singleton_append]
  show ((readUnits _).map _) = _
  rw [readUnits_quoted, Option.map_some]
  dsimp only
  rw [joinUnits_toNat, Option.map_some, String.ofList_toList, List.length_append]
  rfl

theorem tokens_toDigits (stops : Stops rest) {n : Nat} (small : n < naturalBound) :
    tokens (Nat.toDigits 10 n ++ rest) = some (.natural n :: ts) := by
  have scanned := scanNumber_toDigits stops small
  obtain ⟨d, ds, text, digit⟩ := CellRef.head_toDigits n
  obtain ⟨low, high⟩ := toNat_of_isDigit digit
  rw [text] at scanned ⊢
  have solid : isBlank d = false := by
    refine Bool.eq_false_iff.2 fun blank => ?_
    rcases isBlank_cases blank with rfl | rfl | rfl | rfl <;> cases digit
  refine tokens_cons solid ?_ behind
  have noSymbol : symbol? d = none := by
    unfold symbol?
    split <;> first | rfl | cases digit
  rw [scan, noSymbol]
  have noQuote : d ≠ '"' := by
    rintro rfl
    cases digit
  simp only [noQuote, if_false, digit, or_true, if_true]
  rw [← List.cons_append, scanned]
  rfl

theorem tokens_word {word : String} {t : JsonToken} (listed : (word, t) ∈ words) :
    tokens (word.toList ++ rest) = some (t :: ts) := by
  have null : "null".toList = ['n', 'u', 'l', 'l'] := rfl
  have yes : "true".toList = ['t', 'r', 'u', 'e'] := rfl
  have no : "false".toList = ['f', 'a', 'l', 's', 'e'] := rfl
  simp only [words, List.mem_cons, Prod.mk.injEq, List.not_mem_nil, or_false] at listed
  rcases listed with ⟨rfl, rfl⟩ | ⟨rfl, rfl⟩ | ⟨rfl, rfl⟩
  · have scanned : scan 'n' (['u', 'l', 'l'] ++ rest) = some (.null, 3) := by
      simp [scan, symbol?, words, null]
      rfl
    rw [null]
    exact tokens_cons rfl scanned behind
  · have scanned : scan 't' (['r', 'u', 'e'] ++ rest) = some (.boolean true, 3) := by
      simp [scan, symbol?, words, null, yes]
      rfl
    rw [yes]
    exact tokens_cons rfl scanned behind
  · have scanned : scan 'f' (['a', 'l', 's', 'e'] ++ rest) = some (.boolean false, 4) := by
      simp [scan, symbol?, words, null, yes, no]
      rfl
    rw [no]
    exact tokens_cons rfl scanned behind

end

end Spreadsheet.JsonToken
