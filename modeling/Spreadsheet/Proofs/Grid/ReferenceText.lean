import Spreadsheet.Proofs.Grid.Bounds
import Spreadsheet.Proofs.Text.Characters

namespace Spreadsheet

theorem letterOf_isAlpha {n : Nat} (h : n < 26) : (letterOf n).isAlpha = true := by
  have all : ∀ k : Fin 26, (letterOf k).isAlpha = true := by decide
  exact all ⟨n, h⟩

theorem letterValue_letterOf {n : Nat} (h : n < 26) : letterValue (letterOf n) = n + 1 := by
  have all : ∀ k : Fin 26, letterValue (letterOf k) = k + 1 := by decide
  exact all ⟨n, h⟩

theorem lettersOfCount_pos {n : Nat} (h : 0 < n) :
    lettersOfCount n = lettersOfCount ((n - 1) / 26) ++ [letterOf ((n - 1) % 26)] := by
  rw [lettersOfCount, if_neg (by omega)]

theorem lettersOfCount_isAlpha (n : Nat) : ∀ c ∈ lettersOfCount n, c.isAlpha = true := by
  induction n using Nat.strongRecOn with
  | ind n ih =>
      intro c mem
      rcases Nat.eq_zero_or_pos n with rfl | positive
      · rw [lettersOfCount, if_pos rfl] at mem
        cases mem
      · rw [lettersOfCount_pos positive] at mem
        rcases List.mem_append.1 mem with earlier | last
        · exact ih ((n - 1) / 26) (by omega) c earlier
        · obtain rfl := List.mem_singleton.1 last
          exact letterOf_isAlpha (Nat.mod_lt _ (by omega))

theorem countLetters_lettersOfCount (letters : List Char) {n : Nat} (rest : List Char)
    (bound : n ≤ maxColumns) :
    countLetters letters 0 (lettersOfCount n ++ rest) = countLetters letters n rest := by
  induction n using Nat.strongRecOn generalizing rest with
  | ind n ih =>
      rcases Nat.eq_zero_or_pos n with rfl | positive
      · rw [lettersOfCount, if_pos rfl, List.nil_append]
      · have small : (n - 1) % 26 < 26 := Nat.mod_lt _ (by omega)
        have sum : (n - 1) / 26 * 26 + letterValue (letterOf ((n - 1) % 26)) = n := by
          rw [letterValue_letterOf small]
          omega
        rw [lettersOfCount_pos positive, List.append_assoc, ih _ (by omega) _ (by omega),
          List.singleton_append, countLetters]
        dsimp only
        rw [sum, if_neg (by simp [letterOf_isAlpha small]), if_neg (by omega)]

theorem columnLetters_ne_nil (column : Nat) : columnLetters column ≠ [] := by
  rw [columnLetters, lettersOfCount_pos (by omega)]
  simp

theorem columnLetters_isAlpha (column : Nat) : ∀ c ∈ columnLetters column, c.isAlpha = true :=
  lettersOfCount_isAlpha _

theorem columnIndex_columnLetters {column : Nat} (h : column < maxColumns) :
    columnIndex (columnLetters column) = .ok column := by
  have counted := countLetters_lettersOfCount (columnLetters column) (n := column + 1) [] (by omega)
  rw [List.append_nil] at counted
  rw [columnIndex, if_neg (columnLetters_ne_nil column)]
  rw [show countLetters (columnLetters column) 0 (columnLetters column) = .ok (column + 1) from counted]
  rfl

namespace CellRef

theorem parseRow_toDigits (text : String) {row : Nat} (h : row < maxRows) :
    parseRow text (Nat.toDigits 10 (row + 1)) = .ok row := by
  have allDigits : (Nat.toDigits 10 (row + 1)).all Char.isDigit = true := by
    rw [List.all_eq_true]
    exact fun c mem => Nat.isDigit_of_mem_toDigits (by decide) (by decide) mem
  have bounds : maxRows < rowWordBound := by decide
  rw [parseRow, if_neg Nat.toDigits_ne_nil, if_neg (by simp [allDigits])]
  dsimp only
  rw [Nat.ofDigitChars_ten_toDigits, if_neg (by omega), if_neg (by omega), if_neg (by omega),
    Nat.add_sub_cancel]

theorem splitMarker_marker (fixed : Bool) {cs : List Char} (plain : cs.head? ≠ some '$') :
    splitMarker (marker fixed ++ cs) = (fixed, cs) := by
  cases fixed with
  | true => rfl
  | false =>
      show splitMarker cs = (false, cs)
      unfold splitMarker
      split
      · exact absurd rfl plain
      · rfl

theorem head_columnLetters (column : Nat) :
    ∃ c rest, columnLetters column = c :: rest ∧ c.isAlpha = true := by
  cases letters : columnLetters column with
  | nil => exact absurd letters (columnLetters_ne_nil column)
  | cons c rest =>
      refine ⟨c, rest, rfl, columnLetters_isAlpha column c ?_⟩
      rw [letters]
      exact List.mem_cons_self

theorem toDigits_isDigit (n : Nat) : ∀ c ∈ Nat.toDigits 10 n, c.isDigit = true :=
  fun _ mem => Nat.isDigit_of_mem_toDigits (by decide) (by decide) mem

theorem head_toDigits (n : Nat) : ∃ c rest, Nat.toDigits 10 n = c :: rest ∧ c.isDigit = true := by
  cases digits : Nat.toDigits 10 n with
  | nil => exact absurd digits Nat.toDigits_ne_nil
  | cons c rest =>
      refine ⟨c, rest, rfl, toDigits_isDigit n c ?_⟩
      rw [digits]
      exact List.mem_cons_self

def rowText (ref : CellRef) : List Char := marker ref.rowFixed ++ Nat.toDigits 10 (ref.row + 1)

theorem splitMarker_rowText (ref : CellRef) :
    splitMarker ref.rowText = (ref.rowFixed, Nat.toDigits 10 (ref.row + 1)) := by
  obtain ⟨d, rest, digits, digit⟩ := head_toDigits (ref.row + 1)
  refine splitMarker_marker ref.rowFixed ?_
  rw [digits]
  rintro ⟨rfl⟩
  exact absurd digit (by decide)

theorem head_rowText (ref : CellRef) : ∀ c ∈ ref.rowText.head?, c.isAlpha = false := by
  intro c mem
  unfold rowText at mem
  cases fixed : ref.rowFixed with
  | true =>
      rw [fixed] at mem
      cases mem
      decide
  | false =>
      obtain ⟨d, rest, digits, digit⟩ := head_toDigits (ref.row + 1)
      rw [fixed, digits] at mem
      cases mem
      exact isAlpha_eq_false_of_isDigit digit

theorem splitMarker_write (ref : CellRef) :
    splitMarker ref.write = (ref.columnFixed, columnLetters ref.column ++ ref.rowText) := by
  obtain ⟨c, rest, letters, alpha⟩ := head_columnLetters ref.column
  rw [write, List.append_assoc]
  refine splitMarker_marker ref.columnFixed ?_
  rw [letters]
  rintro ⟨rfl⟩
  exact absurd alpha (by decide)

theorem mem_marker {fixed : Bool} {c : Char} (h : c ∈ marker fixed) : c = '$' := by
  cases fixed with
  | true => exact List.mem_singleton.1 h
  | false => cases h

theorem mem_write {ref : CellRef} {c : Char} (h : c ∈ ref.write) : c.isAlphanum = true ∨ c = '$' := by
  simp only [write, List.mem_append] at h
  rcases h with (marked | letter) | marked | digit
  · exact .inr (mem_marker marked)
  · exact .inl (Bool.or_eq_true_iff.2 (.inl (columnLetters_isAlpha _ c letter)))
  · exact .inr (mem_marker marked)
  · exact .inl (Bool.or_eq_true_iff.2 (.inr (toDigits_isDigit _ c digit)))

theorem write_ne_nil (ref : CellRef) : ref.write ≠ [] := by
  simp [write, columnLetters_ne_nil]

theorem trimmed_write (ref : CellRef) : Text.Trimmed ref.write := by
  have solid : ∀ c ∈ ref.write, Text.isBlank c = false := by
    intro c mem
    rcases mem_write mem with alphanum | rfl
    · exact Text.solid_of_isAlphanum alphanum
    · decide
  exact ⟨fun c head => solid c (List.mem_of_mem_head? head),
    fun c last => solid c (List.mem_of_getLast? last)⟩

theorem parse_write {ref : CellRef} (h : ref.InBounds) : parse ref.write = .ok ref := by
  rw [parse, Text.trimBlanks_eq_of_trimmed (trimmed_write ref), if_neg (write_ne_nil ref),
    splitMarker_write]
  dsimp only
  rw [takeWhile_append_stop (columnLetters_isAlpha _) (head_rowText ref),
    dropWhile_append_stop (columnLetters_isAlpha _) (head_rowText ref),
    if_neg (columnLetters_ne_nil _), columnIndex_columnLetters h.2, splitMarker_rowText]
  dsimp only [Except.bind]
  rw [parseRow_toDigits _ h.1]
  rfl

end CellRef

end Spreadsheet
