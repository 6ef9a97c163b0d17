import Spreadsheet.Proofs.Data.Outcome
import Spreadsheet.Proofs.Grid.ReferenceText

namespace Spreadsheet

def lettersOnTop (count : Nat) (letters : List Char) : Nat :=
  letters.foldl (fun n c => n * 26 + letterValue c) count

theorem le_lettersOnTop (count : Nat) (letters : List Char) : count ≤ lettersOnTop count letters := by
  induction letters generalizing count with
  | nil => exact Nat.le_refl _
  | cons c rest ih =>
      have step := ih (count * 26 + letterValue c)
      show count ≤ lettersOnTop (count * 26 + letterValue c) rest
      omega

theorem countLetters_eq_ok_iff {letters cs : List Char} {count n : Nat} (start : count ≤ maxColumns) :
    countLetters letters count cs = .ok n ↔
      (∀ c ∈ cs, c.isAlpha = true) ∧ lettersOnTop count cs = n ∧ n ≤ maxColumns := by
  induction cs generalizing count with
  | nil =>
      rw [countLetters, Except.ok.injEq]
      refine ⟨?_, fun h => h.2.1⟩
      rintro rfl
      exact ⟨by simp, rfl, start⟩
  | cons c rest ih =>
      rw [countLetters, List.forall_mem_cons]
      by_cases alpha : c.isAlpha = true
      · rw [if_neg (not_not.2 alpha)]
        dsimp only
        by_cases within : count * 26 + letterValue c ≤ maxColumns
        · rw [if_neg (by omega), ih within, and_assoc, and_iff_right alpha]
          rfl
        · rw [if_pos (by omega)]
          constructor
          · intro refused
            cases refused
          · rintro ⟨_, counted, bound⟩
            have beyond := le_lettersOnTop (count * 26 + letterValue c) rest
            rw [show lettersOnTop (count * 26 + letterValue c) rest = n from counted] at beyond
            omega
      · rw [if_pos alpha]
        constructor
        · intro refused
          cases refused
        · intro h
          exact absurd h.1.1 alpha

theorem toNat_toUpper_of_isAlpha {c : Char} (alpha : c.isAlpha = true) :
    65 ≤ c.toUpper.toNat ∧ c.toUpper.toNat ≤ 90 := by
  have letter := toNat_of_isAlpha alpha
  rw [Char.toUpper]
  split
  · rename_i lower
    simp only [Char.toNat, UInt32.toNat_add, UInt32.le_iff_toNat_le] at lower ⊢
    simp at lower ⊢
    omega
  · rename_i notLower
    simp only [UInt32.le_iff_toNat_le] at notLower
    change ¬(97 ≤ c.toNat ∧ c.toNat ≤ 122) at notLower
    omega

theorem letterValue_pos {c : Char} (alpha : c.isAlpha = true) : 0 < letterValue c := by
  have upper := toNat_toUpper_of_isAlpha alpha
  unfold letterValue
  omega

theorem columnIndex_eq_ok_iff {letters : List Char} {column : Nat} :
    columnIndex letters = .ok column ↔ letters ≠ [] ∧ (∀ c ∈ letters, c.isAlpha = true) ∧
      lettersOnTop 0 letters = column + 1 ∧ column < maxColumns := by
  cases letters with
  | nil => exact ⟨nofun, fun h => absurd rfl h.1⟩
  | cons c rest =>
      rw [columnIndex, if_neg (List.cons_ne_nil c rest), map_eq_ok]
      constructor
      · rintro ⟨n, counted, rfl⟩
        obtain ⟨all, rfl, bound⟩ := (countLetters_eq_ok_iff (Nat.zero_le _)).1 counted
        have first := letterValue_pos (all c List.mem_cons_self)
        have positive := le_lettersOnTop (0 * 26 + letterValue c) rest
        have same : lettersOnTop 0 (c :: rest) = lettersOnTop (0 * 26 + letterValue c) rest := rfl
        exact ⟨List.cons_ne_nil c rest, all, by omega, by omega⟩
      · rintro ⟨_, all, counted, bound⟩
        exact ⟨column + 1, (countLetters_eq_ok_iff (Nat.zero_le _)).2 ⟨all, counted, bound⟩, rfl⟩

namespace CellRef

theorem parseRow_eq_ok_iff {text : String} {digits : List Char} {row : Nat} :
    parseRow text digits = .ok row ↔ digits ≠ [] ∧ (∀ c ∈ digits, c.isDigit = true) ∧
      Nat.ofDigitChars 10 digits 0 = row + 1 ∧ row < maxRows := by
  have bounds : maxRows < rowWordBound := by decide
  have all : digits.all Char.isDigit = true ↔ ∀ c ∈ digits, c.isDigit = true := List.all_eq_true
  unfold parseRow
  split
  · rename_i none
    exact ⟨nofun, fun h => absurd none h.1⟩
  split
  · rename_i other
    exact ⟨nofun, fun h => absurd (all.2 h.2.1) other⟩
  rename_i some digit
  dsimp only
  split
  · exact ⟨nofun, fun h => by omega⟩
  split
  · exact ⟨nofun, fun h => by omega⟩
  split
  · exact ⟨nofun, fun h => by omega⟩
  · rw [Except.ok.injEq]
    refine ⟨fun same => ⟨some, all.1 (not_not.1 digit), by omega, by omega⟩, fun h => by omega⟩

def Names (cs : List Char) (ref : CellRef) : Prop :=
  ∃ letters digits, cs = marker ref.columnFixed ++ letters ++ (marker ref.rowFixed ++ digits) ∧
    (letters ≠ [] ∧ (∀ c ∈ letters, c.isAlpha = true) ∧ lettersOnTop 0 letters = ref.column + 1 ∧
      ref.column < maxColumns) ∧
    (digits ≠ [] ∧ (∀ c ∈ digits, c.isDigit = true) ∧ Nat.ofDigitChars 10 digits 0 = ref.row + 1 ∧
      ref.row < maxRows)

theorem marker_splitMarker (cs : List Char) : marker (splitMarker cs).1 ++ (splitMarker cs).2 = cs := by
  unfold splitMarker
  split <;> rfl

theorem head_ne_dollar {cs : List Char} {kind : Char → Bool} (all : ∀ c ∈ cs, kind c = true)
    (plain : kind '$' = false) : cs.head? ≠ some '$' := by
  intro head
  rw [all '$' (List.mem_of_mem_head? head)] at plain
  cases plain

theorem parse_eq_ok_iff {cs : List Char} {ref : CellRef} :
    parse cs = .ok ref ↔ Names (Text.trimBlanks cs) ref := by
  unfold parse
  generalize Text.trimBlanks cs = word
  dsimp only
  constructor
  · intro h
    split at h
    · cases h
    split at h
    · cases h
    obtain ⟨column, letters, h⟩ := bind_eq_ok.1 h
    obtain ⟨row, digits, rfl⟩ := map_eq_ok.1 h
    refine ⟨_, _, ?_, columnIndex_eq_ok_iff.1 letters, parseRow_eq_ok_iff.1 digits⟩
    dsimp only
    rw [marker_splitMarker, List.append_assoc, List.takeWhile_append_dropWhile, marker_splitMarker]
  · rintro ⟨letters, digits, rfl, column, row⟩
    have plain : (letters ++ (marker ref.rowFixed ++ digits)).head? ≠ some '$' := by
      rw [List.head?_append_of_ne_nil _ column.1]
      exact head_ne_dollar column.2.1 (by decide)
    have stop : ∀ c ∈ (marker ref.rowFixed ++ digits).head?, c.isAlpha = false := by
      cases ref.rowFixed with
      | true => exact fun c mem => by cases mem; decide
      | false => exact fun c mem => isAlpha_eq_false_of_isDigit (row.2.1 c (List.mem_of_mem_head? mem))
    have some : marker ref.columnFixed ++ (letters ++ (marker ref.rowFixed ++ digits)) ≠ [] := by
      simp [column.1]
    rw [List.append_assoc, if_neg some, splitMarker_marker _ plain]
    dsimp only
    rw [takeWhile_append_stop column.2.1 stop, dropWhile_append_stop column.2.1 stop,
      if_neg column.1, columnIndex_eq_ok_iff.2 column,
      splitMarker_marker _ (head_ne_dollar row.2.1 (by decide))]
    dsimp only [Except.bind]
    rw [parseRow_eq_ok_iff.2 row]
    rfl

end CellRef

end Spreadsheet
