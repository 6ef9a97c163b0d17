import Spreadsheet.Proofs.Text.Characters
import Spreadsheet.Text.Delimited

namespace Spreadsheet.Text

/-- Reads behind an opening quote up to the closing one, and returns what follows it. Of two quotes in a
row the first does not close. -/
def readQuoted : List Char → List Char × List Char
  | '"' :: '"' :: rest => ('"' :: (readQuoted rest).1, (readQuoted rest).2)
  | '"' :: rest => ([], rest)
  | c :: rest => (c :: (readQuoted rest).1, (readQuoted rest).2)
  | [] => ([], [])

def readField (separator : Char) : List Char → List Char × List Char
  | '"' :: rest => readQuoted rest
  | cs => (cs.takeWhile (· != separator), cs.dropWhile (· != separator))

def readFields (delimiter : Char) : Nat → List Char → List (List Char) × List Char
  | 0, cs => ([], cs.tail)
  | 1, cs => ([(readField '\n' cs).1], (readField '\n' cs).2.tail)
  | n + 2, cs =>
    let first := readField delimiter cs
    let others := readFields delimiter (n + 1) first.2.tail
    (first.1 :: others.1, others.2)

def readLines (delimiter : Char) (columns : Nat) : Nat → List Char → List (List (List Char))
  | 0, _ => []
  | rows + 1, cs =>
    let line := readFields delimiter columns cs
    line.1 :: readLines delimiter columns rows line.2

variable {delimiter separator : Char}

theorem readQuoted_doubled (field : List Char) {rest : List Char}
    (stop : ∀ c ∈ rest.head?, c ≠ '"') :
    readQuoted (field.flatMap (fun c => if c = '"' then ['"', '"'] else [c]) ++ '"' :: rest) =
      (field, rest) := by
  induction field with
  | nil =>
      cases rest with
      | nil => rfl
      | cons c rest =>
          rw [List.flatMap_nil, List.nil_append, readQuoted]
          rintro _ same
          exact stop c rfl (List.cons.inj same).1
  | cons c field ih =>
      rw [List.flatMap_cons]
      by_cases quote : c = '"'
      · rw [if_pos quote, quote, List.cons_append, List.cons_append, List.cons_append,
          List.cons_append, List.nil_append, readQuoted, ih]
      · rw [if_neg quote, List.append_assoc, List.singleton_append, readQuoted, ih]
        · exact fun _ same => absurd same quote
        · exact fun same => absurd same quote

theorem free_of_not_needsQuotes {field : List Char} (bare : ¬ needsQuotes delimiter field = true) :
    ∀ c ∈ field, c ≠ delimiter ∧ c ≠ '"' ∧ c ≠ '\n' := by
  intro c mem
  simp only [needsQuotes, List.any_eq_true, not_exists, not_and, Bool.or_eq_true, beq_iff_eq,
    not_or] at bare
  obtain ⟨⟨⟨notDelimiter, notQuote⟩, notBreak⟩, _⟩ := bare c mem
  exact ⟨notDelimiter, notQuote, notBreak⟩

theorem readField_bare {field rest : List Char} (usable : separator ≠ '"')
    (free : ∀ c ∈ field, c ≠ separator ∧ c ≠ '"') :
    readField separator (field ++ separator :: rest) = (field, separator :: rest) := by
  have inside : ∀ c ∈ field, (c != separator) = true := fun c mem => bne_iff_ne.2 (free c mem).1
  have stop : ∀ c ∈ (separator :: rest).head?, (c != separator) = false := by
    intro c first
    cases first
    exact bne_self_eq_false _
  have unquoted : ∀ cs, field ++ separator :: rest = '"' :: cs → False := by
    intro cs same
    cases field with
    | nil => exact usable (List.cons.inj same).1
    | cons c field => exact (free c List.mem_cons_self).2 (List.cons.inj same).1
  rw [readField, takeWhile_append_stop inside stop, dropWhile_append_stop inside stop]
  exact unquoted

theorem readField_writeField (usable : separator ≠ '"')
    (separates : separator = delimiter ∨ separator = '\n') (field rest : List Char) :
    readField separator (writeField delimiter field ++ separator :: rest) =
      (field, separator :: rest) := by
  unfold writeField
  by_cases quoted : needsQuotes delimiter field = true
  · rw [if_pos quoted, doubleQuotes, List.cons_append, List.cons_append, readField, List.append_assoc,
      List.singleton_append]
    refine readQuoted_doubled field fun c first => ?_
    cases first
    exact usable
  · rw [if_neg quoted]
    refine readField_bare usable fun c mem => ?_
    obtain ⟨notDelimiter, notQuote, notBreak⟩ := free_of_not_needsQuotes quoted c mem
    rcases separates with rfl | rfl
    · exact ⟨notDelimiter, notQuote⟩
    · exact ⟨notBreak, notQuote⟩

theorem readFields_writeFields (usable : delimiter ≠ '"') (fields : List (List Char))
    (rest : List Char) :
    readFields delimiter fields.length (writeFields delimiter fields ++ '\n' :: rest) =
      (fields, rest) := by
  induction fields with
  | nil => rfl
  | cons field fields ih =>
      cases fields with
      | nil =>
          rw [List.length_singleton, writeFields, readFields,
            readField_writeField (by decide) (.inr rfl)]
          rfl
      | cons next fields =>
          rw [List.length_cons] at ih ⊢
          rw [List.length_cons, writeFields, List.append_assoc, List.cons_append, readFields,
            readField_writeField usable (.inl rfl)]
          · dsimp only [List.tail_cons]
            rw [ih]
          · simp

theorem readLines_writeLines (usable : delimiter ≠ '"') {columns : Nat}
    {lines : List (List (List Char))} (size : ∀ fields ∈ lines, fields.length = columns) :
    readLines delimiter columns lines.length (writeLines delimiter lines) = lines := by
  induction lines with
  | nil => rfl
  | cons fields lines ih =>
      obtain ⟨first, others⟩ := List.forall_mem_cons.1 size
      have line : writeLines delimiter (fields :: lines) =
          writeFields delimiter fields ++ '\n' :: writeLines delimiter lines := by
        rw [writeLines, List.flatMap_cons, List.append_assoc, List.singleton_append]
        rfl
      rw [line, List.length_cons, readLines, ← first, readFields_writeFields usable]
      dsimp only
      rw [first, ih others]

variable {rows columns : Nat}

def gridLines (grid : Fin rows → Fin columns → String) : List (List (List Char)) :=
  List.ofFn fun row => List.ofFn fun column => (grid row column).toList

def printGrid (delimiter : Char) (grid : Fin rows → Fin columns → String) : String :=
  String.ofList (writeLines delimiter (gridLines grid))

def decodeGrid (delimiter : Char) (rows columns : Nat) (text : String) (row : Fin rows)
    (column : Fin columns) : String :=
  let fields := (readLines delimiter columns rows text.toList).getD row []
  String.ofList (fields.getD column [])

theorem decodeGrid_printGrid (usable : delimiter ≠ '"') (grid : Fin rows → Fin columns → String) :
    decodeGrid delimiter rows columns (printGrid delimiter grid) = grid := by
  have length : (gridLines grid).length = rows := List.length_ofFn
  have size : ∀ fields ∈ gridLines grid, fields.length = columns := by
    intro fields mem
    obtain ⟨row, rfl⟩ := List.mem_ofFn.1 mem
    exact List.length_ofFn
  have lines := readLines_writeLines usable size
  rw [length] at lines
  funext row column
  rw [decodeGrid, printGrid, String.toList_ofList, lines]
  simp [gridLines]

theorem printGrid_ne (usable : delimiter ≠ '"') {grid grid' : Fin rows → Fin columns → String}
    {row : Fin rows} {column : Fin columns} (differ : grid row column ≠ grid' row column) :
    printGrid delimiter grid ≠ printGrid delimiter grid' := by
  intro same
  have decoded := congrArg (decodeGrid delimiter rows columns) same
  rw [decodeGrid_printGrid usable, decodeGrid_printGrid usable] at decoded
  exact differ (congrFun (congrFun decoded row) column)

end Spreadsheet.Text
