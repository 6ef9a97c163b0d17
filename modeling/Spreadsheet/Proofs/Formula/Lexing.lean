import Spreadsheet.Formula.Lexer

namespace Spreadsheet.Lexer

theorem tokens_nil (offset : Nat) : tokens offset [] = ([], none) := by
  rw [tokens]
  rfl

theorem tokens_cons {c : Char} (solid : Text.isBlank c = false) (offset : Nat) (rest : List Char) :
    tokens offset (c :: rest) =
      match scan offset c rest with
      | .error fault => ([], some fault)
      | .ok (t, n) =>
        (t :: (tokens (offset + byteLength (c :: rest.take n)) (rest.drop n)).1,
          (tokens (offset + byteLength (c :: rest.take n)) (rest.drop n)).2) := by
  have front : (c :: rest).dropWhile Text.isBlank = c :: rest :=
    List.dropWhile_cons_of_neg (by simp [solid])
  have before : (c :: rest).takeWhile Text.isBlank = [] :=
    List.takeWhile_cons_of_neg (by simp [solid])
  have start : offset + byteLength [] = offset := rfl
  rw [tokens]
  split
  · rename_i blank
    rw [front] at blank
    cases blank
  · rename_i c' rest' eq
    rw [front] at eq
    cases eq
    cases scanned : scan offset c rest with
    | error fault => simp only [before, start, scanned]
    | ok result => simp only [before, start, scanned]

theorem comparison_ne_number {c : Char} {rest : List Char} {n : Nat} (x : Float) :
    comparisonToken? c rest ≠ some (.number x, n) := by
  unfold comparisonToken?
  split <;> simp

theorem symbol_ne_number {c : Char} (x : Float) : symbolToken? c ≠ some (.number x) := by
  unfold symbolToken?
  split <;> simp

theorem word_ne_number {word rest : List Char} (x : Float) : wordToken word rest ≠ .number x := by
  unfold wordToken
  dsimp only
  split
  · simp
  · split
    · simp
    · split <;> simp

theorem scan_number_finite {offset : Nat} {c : Char} {rest : List Char} {x : Float} {n : Nat}
    (h : scan offset c rest = .ok (.number x, n)) : x.isFinite = true := by
  unfold scan at h
  split at h
  · rename_i t symbol
    cases h
    exact absurd symbol (symbol_ne_number x)
  split at h
  · rename_i result comparison
    cases h
    exact absurd comparison (comparison_ne_number x)
  split at h
  · split at h <;> cases h
  split at h
  · dsimp only at h
    split at h
    · rename_i y read
      cases h
      unfold Decimal.readFinite at read
      split at read
      · split at read
        · exact (Option.filter_eq_some_iff.1 read).2
        · cases read
      · cases read
    · cases h
  split at h
  · dsimp only at h
    split at h <;> cases h
  split at h
  · dsimp only at h
    simp only [Except.ok.injEq, Prod.mk.injEq] at h
    exact absurd h.1 (word_ne_number x)
  · cases h

theorem tokens_finite (offset : Nat) (cs : List Char) {x : Float}
    (h : .number x ∈ (tokens offset cs).1) : x.isFinite = true := by
  fun_induction tokens offset cs with
  | case1 => cases h
  | case2 => cases h
  | case3 offset cs c rest eq start t n scanned smaller ts fault more ih =>
      rcases List.mem_cons.1 h with rfl | later
      · exact scan_number_finite scanned
      · exact ih (by rw [more]; exact later)

def Lexes (cs : List Char) (ts : List Token) (rest : List Char) : Prop :=
  ∀ offset, ∃ offset', tokens offset (cs ++ rest) =
    (ts ++ (tokens offset' rest).1, (tokens offset' rest).2)

def Faults (cs rest : List Char) : Prop := ∀ offset, (tokens offset (cs ++ rest)).2 ≠ none

theorem lexes_nil (rest : List Char) : Lexes [] [] rest := fun offset => ⟨offset, rfl⟩

theorem Lexes.append {cs cs' rest : List Char} {ts ts' : List Token} (h : Lexes cs ts (cs' ++ rest))
    (h' : Lexes cs' ts' rest) : Lexes (cs ++ cs') (ts ++ ts') rest := by
  intro offset
  obtain ⟨middle, first⟩ := h offset
  obtain ⟨offset', second⟩ := h' middle
  refine ⟨offset', ?_⟩
  rw [List.append_assoc, first, second, List.append_assoc]

theorem Lexes.faults {cs cs' rest : List Char} {ts : List Token} (h : Lexes cs ts (cs' ++ rest))
    (h' : Faults cs' rest) : Faults (cs ++ cs') rest := by
  intro offset
  obtain ⟨middle, first⟩ := h offset
  rw [List.append_assoc, first]
  exact h' middle

theorem Faults.append {cs cs' rest : List Char} (h : Faults cs (cs' ++ rest)) :
    Faults (cs ++ cs') rest := by
  intro offset
  rw [List.append_assoc]
  exact h offset

theorem lexes_of_scan {c : Char} {cs rest : List Char} {t : Token} (solid : Text.isBlank c = false)
    (h : ∀ offset, scan offset c (cs ++ rest) = .ok (t, cs.length)) : Lexes (c :: cs) [t] rest := by
  intro offset
  refine ⟨offset + byteLength (c :: (cs ++ rest).take cs.length), ?_⟩
  rw [List.cons_append, tokens_cons solid, h offset]
  simp only [List.drop_left]
  rfl

theorem faults_of_scan {c : Char} {cs rest : List Char} (solid : Text.isBlank c = false)
    (h : ∀ offset, ∃ fault, scan offset c (cs ++ rest) = .error fault) : Faults (c :: cs) rest := by
  intro offset
  obtain ⟨fault, scanned⟩ := h offset
  rw [List.cons_append, tokens_cons solid, scanned]
  simp

end Spreadsheet.Lexer
