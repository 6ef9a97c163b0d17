import Spreadsheet.Formula.Lexer
import Spreadsheet.Proofs.Number.Finite
import Spreadsheet.Proofs.Text.Characters

namespace Spreadsheet.Decimal

inductive Plain : List Char → Prop
  | whole {cs : List Char} : cs ≠ [] → (∀ c ∈ cs, c.isDigit = true) → Plain cs
  | fraction {cs ds : List Char} : cs ≠ [] → (∀ c ∈ cs, c.isDigit = true) →
      (∀ c ∈ ds, c.isDigit = true) → Plain (cs ++ '.' :: ds)

theorem digitsOf_isDigit (n : Nat) : ∀ c ∈ digitsOf n, c.isDigit = true :=
  fun _ mem => Nat.isDigit_of_mem_toDigits (by decide) (by decide) mem

theorem positional_plain (d : Nat) (g : Int) : Plain (positional d g) := by
  have nonempty : digitsOf d ≠ [] := Nat.toDigits_ne_nil
  have zeros : ∀ n, ∀ c ∈ List.replicate n '0', c.isDigit = true := by
    intro n c mem
    obtain rfl := List.eq_of_mem_replicate mem
    decide
  unfold positional
  by_cases large : 0 ≤ g
  · rw [if_pos large]
    refine .whole (by simp [nonempty]) fun c mem => ?_
    rcases List.mem_append.1 mem with digit | zero
    · exact digitsOf_isDigit d c digit
    · exact zeros _ c zero
  · rw [if_neg large]
    dsimp only
    have padded : ∀ n, ∀ c ∈ List.replicate n '0' ++ digitsOf d, c.isDigit = true := by
      intro n c mem
      rcases List.mem_append.1 mem with zero | digit
      · exact zeros n c zero
      · exact digitsOf_isDigit d c digit
    refine .fraction ?_ (fun c mem => padded _ c (List.mem_of_mem_take mem))
      (fun c mem => padded _ c (List.mem_of_mem_drop mem))
    intro empty
    have length := congrArg List.length empty
    simp only [List.length_take, List.length_append, List.length_replicate, List.length_nil] at length
    have := List.length_pos_iff.2 nonempty
    omega

theorem Plain.head {cs : List Char} (h : Plain cs) :
    ∃ c rest, cs = c :: rest ∧ c.isDigit = true := by
  cases h with
  | @whole cs nonempty digits =>
      obtain ⟨c, rest, rfl⟩ := List.exists_cons_of_ne_nil nonempty
      exact ⟨c, rest, rfl, digits c List.mem_cons_self⟩
  | @fraction cs ds nonempty digits _ =>
      obtain ⟨c, rest, rfl⟩ := List.exists_cons_of_ne_nil nonempty
      exact ⟨c, rest ++ '.' :: ds, rfl, digits c List.mem_cons_self⟩

theorem Plain.mem {cs : List Char} {c : Char} (h : Plain cs) (mem : c ∈ cs) :
    c.isDigit = true ∨ c = '.' := by
  cases h with
  | whole _ digits => exact .inl (digits c mem)
  | fraction _ digits digits' =>
      rcases List.mem_append.1 mem with front | back
      · exact .inl (digits c front)
      · rcases List.mem_cons.1 back with rfl | behind
        · exact .inr rfl
        · exact .inl (digits' c behind)

def signed (x : Float) : Bool := Binary64.isNegative x && x != 0

theorem write_of_finite {x : Float} (finite : x.isFinite = true) :
    ∃ cs, Plain cs ∧ (write x).toList = if signed x then '-' :: cs else cs := by
  obtain ⟨notNaN, notInf⟩ := not_special_of_isFinite finite
  unfold write signed
  cases zero : x == 0 with
  | true =>
      refine ⟨['0'], .whole (by simp) (by simp), ?_⟩
      simp [bne, zero]
  | false =>
      refine ⟨positional (shortest x).1 (shortest x).2, positional_plain _ _, ?_⟩
      have text : writeSigned x =
          String.ofList (signText x ++ positional (shortest x).1 (shortest x).2) := by
        rw [writeSigned, notNaN, notInf, zero]
        rfl
      cases negative : Binary64.isNegative x with
      | true => simp [text, bne, zero, signText, negative]
      | false => simp [text, bne, zero, signText, negative]

def ReadsBack (x : Float) : Prop := ∃ y, readFinite (write x).toList = some y ∧ (y == x) = true

theorem read_plain {cs : List Char} (h : Plain cs) : read cs = readUnsigned cs := by
  obtain ⟨c, rest, rfl, digit⟩ := h.head
  unfold read
  split
  · rename_i eq
    cases eq
    exact absurd digit (by decide)
  · rename_i eq
    cases eq
    exact absurd digit (by decide)
  · rfl

theorem readFinite_plain {cs : List Char} (h : Plain cs) :
    readFinite cs = (readUnsigned cs).filter Float.isFinite := by
  rw [← read_plain h]
  obtain ⟨c, rest, rfl, digit⟩ := h.head
  rw [readFinite, if_pos (.inl digit)]

theorem readFinite_minus {cs : List Char} (h : Plain cs) :
    readFinite ('-' :: cs) = (readFinite cs).map Float.neg := by
  rw [readFinite_plain h, readFinite, if_pos (by simp), Decimal.read]
  cases readUnsigned cs with
  | none => rfl
  | some y =>
      have finite : (Float.neg y).isFinite = y.isFinite := isFinite_neg y
      rw [Option.map_some, Option.filter_some, Option.filter_some, finite]
      split <;> rfl

def readBack (x : Float) : Float := (readFinite (write x).toList).getD x

def unreadable (x : Float) : Bool := (readFinite (write x).toList).isNone

theorem ReadsBack.readable {x : Float} (h : ReadsBack x) :
    unreadable x = false ∧ (readBack x == x) = true := by
  obtain ⟨y, read, same⟩ := h
  unfold unreadable readBack
  rw [read]
  exact ⟨rfl, same⟩

end Spreadsheet.Decimal

namespace Spreadsheet.Lexer

theorem numberLexeme_plain {cs rest : List Char} (h : Decimal.Plain cs)
    (stop : ∀ c ∈ rest.head?, c.isDigit = false ∧ c ≠ '.' ∧ c ≠ 'e' ∧ c ≠ 'E') :
    numberLexeme (cs ++ rest) = cs := by
  have noDigit : ∀ c ∈ rest.head?, c.isDigit = false := fun c mem => (stop c mem).1
  have noExponent : exponentLexeme rest = [] := by
    cases rest with
    | nil => rfl
    | cons c rest =>
        obtain ⟨_, _, small, large⟩ := stop c rfl
        simp [exponentLexeme, small, large]
  have noFraction : fractionLexeme rest = [] := by
    unfold fractionLexeme
    split
    · exact absurd rfl (stop '.' rfl).2.1
    · rfl
  cases h with
  | whole _ digits =>
      rw [numberLexeme, takeWhile_append_stop digits noDigit, List.drop_left, noFraction]
      simp [noExponent]
  | @fraction cs ds _ digits digits' =>
      have point : ∀ c ∈ ('.' :: ds ++ rest).head?, c.isDigit = false := by
        intro c mem
        cases mem
        decide
      have fraction : fractionLexeme ('.' :: ds ++ rest) = '.' :: ds := by
        rw [List.cons_append, fractionLexeme, takeWhile_append_stop digits' noDigit]
      rw [List.append_assoc, numberLexeme, takeWhile_append_stop digits point, List.drop_left, fraction,
        List.drop_left, noExponent, List.append_nil]

end Spreadsheet.Lexer
