import Spreadsheet.Proofs.Grid.ReferenceWords

namespace Spreadsheet

/-! ## Column letters -/

theorem letterOf_letterValue {c : Char} (alpha : c.isAlpha = true) :
    letterOf (letterValue c - 1) = c.toUpper := by
  have positive := letterValue_pos alpha
  have code : letterValue c - 1 + 65 = c.toUpper.toNat := by
    unfold letterValue at positive ⊢
    omega
  rw [letterOf, code, Char.ofNat_toNat]

theorem letterValue_le {c : Char} (alpha : c.isAlpha = true) : letterValue c ≤ 26 := by
  have upper := toNat_toUpper_of_isAlpha alpha
  unfold letterValue
  omega

theorem lettersOfCount_append {n : Nat} {c : Char} (alpha : c.isAlpha = true) :
    lettersOfCount (n * 26 + letterValue c) = lettersOfCount n ++ [c.toUpper] := by
  have positive := letterValue_pos alpha
  have bound := letterValue_le alpha
  have rest : (n * 26 + letterValue c - 1) / 26 = n := by omega
  have last : (n * 26 + letterValue c - 1) % 26 = letterValue c - 1 := by omega
  rw [lettersOfCount_pos (by omega), rest, last, letterOf_letterValue alpha]

theorem lettersOfCount_lettersOnTop {letters : List Char} (n : Nat)
    (alpha : ∀ c ∈ letters, c.isAlpha = true) :
    lettersOfCount (lettersOnTop n letters) = lettersOfCount n ++ letters.map Char.toUpper := by
  induction letters generalizing n with
  | nil => simp [lettersOnTop]
  | cons c rest ih =>
      obtain ⟨first, others⟩ := List.forall_mem_cons.1 alpha
      show lettersOfCount (lettersOnTop (n * 26 + letterValue c) rest) = _
      simp [ih _ others, lettersOfCount_append first]

theorem lettersOnTop_pos {letters : List Char} (some : letters ≠ [])
    (alpha : ∀ c ∈ letters, c.isAlpha = true) : 0 < lettersOnTop 0 letters := by
  cases letters with
  | nil => exact absurd rfl some
  | cons c rest =>
      have first := letterValue_pos (alpha c List.mem_cons_self)
      exact first.trans_le ((Nat.le_add_left _ _).trans (le_lettersOnTop _ rest))

/-! ## Row numbers -/

theorem digitChar_of_isDigit {c : Char} (digit : c.isDigit = true) :
    (c.toNat - '0'.toNat).digitChar = c ∧ c.toNat - '0'.toNat < 10 := by
  have bounds := toNat_of_isDigit digit
  have small : c.toNat - '0'.toNat < 10 := by
    show c.toNat - 48 < 10
    omega
  constructor
  · apply Char.toNat_inj.1
    rw [Nat.toNat_digitChar_of_lt_ten small]
    show 48 + (c.toNat - 48) = c.toNat
    omega
  · exact small

theorem toDigits_ofDigitChars_of_pos {digits : List Char} {n : Nat} (positive : 0 < n)
    (digit : ∀ c ∈ digits, c.isDigit = true) :
    Nat.toDigits 10 (Nat.ofDigitChars 10 digits n) = Nat.toDigits 10 n ++ digits := by
  induction digits generalizing n with
  | nil => simp
  | cons c rest ih =>
      obtain ⟨first, others⟩ := List.forall_mem_cons.1 digit
      obtain ⟨same, small⟩ := digitChar_of_isDigit first
      rw [Nat.ofDigitChars_cons, ih (by omega) others,
        ← Nat.toDigits_append_toDigits (by decide) positive small, Nat.toDigits_of_lt_base small, same]
      simp

theorem toDigits_ofDigitChars {digits : List Char} (digit : ∀ c ∈ digits, c.isDigit = true)
    (positive : 0 < Nat.ofDigitChars 10 digits 0) :
    Nat.toDigits 10 (Nat.ofDigitChars 10 digits 0) = digits.dropWhile (· == '0') := by
  induction digits with
  | nil => simp at positive
  | cons c rest ih =>
      obtain ⟨first, others⟩ := List.forall_mem_cons.1 digit
      by_cases zero : c = '0'
      · subst zero
        rw [Nat.ofDigitChars_cons] at positive ⊢
        exact ih others positive
      · obtain ⟨same, small⟩ := digitChar_of_isDigit first
        have nonzero : 0 < c.toNat - '0'.toNat := by
          refine Nat.pos_of_ne_zero fun none => zero ?_
          rw [← same, none]
          rfl
        rw [Nat.ofDigitChars_cons, Nat.mul_zero, Nat.zero_add,
          toDigits_ofDigitChars_of_pos nonzero others, Nat.toDigits_of_lt_base small, same]
        simp [zero]

/-! ## References -/

namespace CellRef

structure Spelling where
  columnFixed : Bool
  letters : List Char
  rowFixed : Bool
  digits : List Char

namespace Spelling

def chars (t : Spelling) : List Char :=
  marker t.columnFixed ++ t.letters ++ (marker t.rowFixed ++ t.digits)

structure Valid (t : Spelling) : Prop where
  lettered : t.letters ≠ []
  letters : ∀ c ∈ t.letters, c.isAlpha = true
  column : lettersOnTop 0 t.letters ≤ maxColumns
  numbered : t.digits ≠ []
  digits : ∀ c ∈ t.digits, c.isDigit = true
  positive : 0 < Nat.ofDigitChars 10 t.digits 0
  row : Nat.ofDigitChars 10 t.digits 0 ≤ maxRows

def canonical (t : Spelling) : Spelling :=
  { t with letters := t.letters.map Char.toUpper, digits := t.digits.dropWhile (· == '0') }

def ref (t : Spelling) : CellRef where
  row := Nat.ofDigitChars 10 t.digits 0 - 1
  column := lettersOnTop 0 t.letters - 1
  rowFixed := t.rowFixed
  columnFixed := t.columnFixed

theorem Valid.write_ref {t : Spelling} (h : t.Valid) : t.ref.write = t.canonical.chars := by
  have column : lettersOnTop 0 t.letters - 1 + 1 = lettersOnTop 0 t.letters :=
    Nat.sub_add_cancel (lettersOnTop_pos h.lettered h.letters)
  have row : Nat.ofDigitChars 10 t.digits 0 - 1 + 1 = Nat.ofDigitChars 10 t.digits 0 :=
    Nat.sub_add_cancel h.positive
  have none : lettersOfCount 0 = [] := by rw [lettersOfCount, if_pos rfl]
  simp only [write, ref, columnLetters, column, row, canonical, chars,
    lettersOfCount_lettersOnTop 0 h.letters, none, toDigits_ofDigitChars h.digits h.positive,
    List.nil_append]

end Spelling

theorem names_iff {cs : List Char} {ref : CellRef} :
    Names cs ref ↔ ∃ t : Spelling, t.Valid ∧ cs = t.chars ∧ ref = t.ref := by
  constructor
  · rintro ⟨letters, digits, rfl, ⟨lettered, alpha, counted, column⟩, numbered, digit, number, row⟩
    have valid : Spelling.Valid ⟨ref.columnFixed, letters, ref.rowFixed, digits⟩ :=
      ⟨lettered, alpha, counted.trans_le column, numbered, digit, number ▸ Nat.succ_pos _,
        number.trans_le row⟩
    refine ⟨_, valid, rfl, ?_⟩
    simp only [Spelling.ref, counted, number, Nat.add_sub_cancel]
  · rintro ⟨t, h, rfl, rfl⟩
    have column := lettersOnTop_pos h.lettered h.letters
    have bound := h.column
    have positive := h.positive
    have row := h.row
    refine ⟨t.letters, t.digits, rfl, ⟨h.lettered, h.letters, ?_, ?_⟩, h.numbered, h.digits, ?_, ?_⟩ <;>
      dsimp only [Spelling.ref] <;> omega

theorem colon_not_mem_write (ref : CellRef) : ∀ c ∈ ref.write, decide (c ≠ ':') = true := by
  intro c mem
  rw [decide_eq_true_iff]
  rintro rfl
  rcases mem_write mem with alphanum | dollar
  · exact absurd alphanum (by decide)
  · exact absurd dollar (by decide)

end CellRef

theorem CellRange.trimmed_write (r : CellRange) : Text.Trimmed r.write := by
  have corner := CellRef.trimmed_write r.first
  refine ⟨fun c head => ?_, fun c last => ?_⟩
  · rw [write, List.head?_append_of_ne_nil _ (CellRef.write_ne_nil _)] at head
    exact corner.1 c head
  · rw [write, ← List.singleton_append, ← List.append_assoc,
      List.getLast?_append_of_ne_nil _ (CellRef.write_ne_nil _)] at last
    exact (CellRef.trimmed_write r.last).2 c last

theorem CellRange.parse_write {r : CellRange} (h : r.InBounds) : parse r.write = .ok r := by
  have stop : ∀ c ∈ (':' :: r.last.write).head?, decide (c ≠ ':') = false := by simp
  have first := CellRef.colon_not_mem_write r.first
  unfold parse
  rw [Text.trimBlanks_eq_of_trimmed r.trimmed_write]
  dsimp only
  rw [write, dropWhile_append_stop first stop, takeWhile_append_stop first stop]
  dsimp only
  rw [CellRef.parse_write h.1, CellRef.parse_write h.2]
  exact congrArg Except.ok r.between_corners

namespace CellRef

/-- References and ranges within notation are read from their own texts. A text is read as a
reference exactly if, without the blanks around it, it spells one, and the text of that reference is
the canonical spelling. -/
theorem notation_codec :
    (∀ ref : CellRef, ref.InBounds → parse ref.write = .ok ref) ∧
    (∀ cs, (∃ ref, parse cs = .ok ref) ↔
      ∃ t : Spelling, t.Valid ∧ Text.trimBlanks cs = t.chars) ∧
    (∀ cs ref, parse cs = .ok ref → ∀ t : Spelling, t.Valid → Text.trimBlanks cs = t.chars →
      ref = t.ref ∧ ref.write = t.canonical.chars) ∧
    ∀ r : CellRange, r.InBounds → CellRange.parse r.write = .ok r := by
  have read : ∀ cs (t : Spelling), t.Valid → Text.trimBlanks cs = t.chars → parse cs = .ok t.ref :=
    fun cs t valid spelled => parse_eq_ok_iff.2 (names_iff.2 ⟨t, valid, spelled, rfl⟩)
  refine ⟨fun _ => parse_write, fun cs => ⟨?_, ?_⟩, ?_, fun _ => CellRange.parse_write⟩
  · rintro ⟨ref, parsed⟩
    obtain ⟨t, valid, spelled, _⟩ := names_iff.1 (parse_eq_ok_iff.1 parsed)
    exact ⟨t, valid, spelled⟩
  · rintro ⟨t, valid, spelled⟩
    exact ⟨t.ref, read cs t valid spelled⟩
  · intro cs ref parsed t valid spelled
    rw [read cs t valid spelled] at parsed
    cases parsed
    exact ⟨rfl, valid.write_ref⟩

theorem lastCell_respelled : ∃ ref : CellRef, ref.InBounds ∧
    parse [' ', '$', 'x', 'f', 'd', '0', '0', '1', '0', '4', '8', '5', '7', '6', '\t'] = .ok ref ∧
    ref.write = ['$', 'X', 'F', 'D', '1', '0', '4', '8', '5', '7', '6'] ∧
    parse ref.write = .ok ref ∧ CellRange.parse (CellRange.single ref).write = .ok (.single ref) := by
  let t : Spelling :=
    ⟨true, ['x', 'f', 'd'], false, ['0', '0', '1', '0', '4', '8', '5', '7', '6']⟩
  have valid : t.Valid := {
    lettered := List.cons_ne_nil _ _
    letters := by simp [t]
    column := by decide
    numbered := List.cons_ne_nil _ _
    digits := by simp [t]
    positive := by decide +kernel
    row := by decide +kernel }
  obtain ⟨codec, accepts, canonical, ranges⟩ := notation_codec
  have spelled : Text.trimBlanks
      [' ', '$', 'x', 'f', 'd', '0', '0', '1', '0', '4', '8', '5', '7', '6', '\t'] = t.chars := by
    decide +kernel
  obtain ⟨ref, parsed⟩ := (accepts _).2 ⟨t, valid, spelled⟩
  obtain ⟨rfl, written⟩ := canonical _ ref parsed t valid spelled
  have bounds : t.ref.InBounds := by decide +kernel
  exact ⟨_, bounds, parsed, written, codec _ bounds, ranges _ ⟨bounds, bounds⟩⟩

end CellRef

end Spreadsheet
