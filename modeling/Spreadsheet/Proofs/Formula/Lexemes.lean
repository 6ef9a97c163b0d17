import Spreadsheet.Formula.Parser
import Spreadsheet.Proofs.Formula.Lexing
import Spreadsheet.Proofs.Grid.ReferenceText
import Spreadsheet.Proofs.Number.Text

namespace Spreadsheet

def BinaryOp.token : BinaryOp → Token
  | equal => .equal
  | notEqual => .notEqual
  | less => .less
  | lessEqual => .lessEqual
  | greater => .greater
  | greaterEqual => .greaterEqual
  | concat => .ampersand
  | add => .plus
  | subtract => .minus
  | multiply => .star
  | divide => .slash
  | power => .caret

theorem BinaryOp.operatorAt_token (op : BinaryOp) : op.token.operatorAt? op.level = some op := by
  cases op <;> decide

namespace Lexer

def closers : List Char := ['+', '-', '*', '/', '^', '&', '=', '<', '>', ':', ',', ')']

def Bounded (rest : List Char) : Prop := ∀ c ∈ rest.head?, c ∈ closers

theorem bounded_nil : Bounded [] := fun _ mem => by cases mem

theorem bounded_cons {c : Char} {rest : List Char} (h : c ∈ closers) : Bounded (c :: rest) := by
  intro c' mem
  cases mem
  exact h

theorem closers_not_word : ∀ c ∈ closers, isWordChar c = false := forall_of_all (by decide)

theorem closers_not_number : ∀ c ∈ closers, c.isDigit = false ∧ c ≠ '.' ∧ c ≠ 'e' ∧ c ≠ 'E' :=
  forall_of_all (by decide)

theorem closers_not_error : ∀ c ∈ closers, c ≠ '/' → isErrorChar c = false :=
  forall_of_all (by decide)

theorem closers_no_call : ∀ c ∈ closers, Text.isBlank c = false ∧ c ≠ '(' :=
  forall_of_all (by decide)

theorem closers_not_quote : ∀ c ∈ closers, c ≠ '"' := forall_of_all (by decide)

/-! ## Symbols -/

theorem symbol_solid {c : Char} {t : Token} (h : symbolToken? c = some t) :
    Text.isBlank c = false := by
  unfold symbolToken? at h
  split at h <;> first | decide | cases h

theorem lexes_symbol {c : Char} {t : Token} (h : symbolToken? c = some t) (rest : List Char) :
    Lexes [c] [t] rest := by
  refine lexes_of_scan (symbol_solid h) fun offset => ?_
  simp [scan, h]

theorem symbol_toList (op : BinaryOp) : op.symbol.toList =
    match op with
    | .equal => ['='] | .notEqual => ['<', '>'] | .less => ['<'] | .lessEqual => ['<', '=']
    | .greater => ['>'] | .greaterEqual => ['>', '='] | .concat => ['&'] | .add => ['+']
    | .subtract => ['-'] | .multiply => ['*'] | .divide => ['/'] | .power => ['^'] := by
  cases op <;> decide

theorem symbol_head (op : BinaryOp) : ∃ c cs, op.symbol.toList = c :: cs ∧ c ∈ closers ∧
    (c == '/') = (op == .divide) := by
  rw [symbol_toList]
  cases op <;> exact ⟨_, _, rfl, by decide, by decide⟩

theorem lexes_comparison {c : Char} {cs rest : List Char} {t : Token} (angle : c = '<' ∨ c = '>')
    (h : comparisonToken? c (cs ++ rest) = some (t, cs.length)) : Lexes (c :: cs) [t] rest := by
  rcases angle with rfl | rfl
  · refine lexes_of_scan (by decide) fun offset => ?_
    have none : symbolToken? '<' = none := by decide
    simp [scan, h, none]
  · refine lexes_of_scan (by decide) fun offset => ?_
    have none : symbolToken? '>' = none := by decide
    simp [scan, h, none]

theorem lexes_operator (op : BinaryOp) {rest : List Char}
    (operand : ∀ c ∈ rest.head?, c ≠ '=' ∧ c ≠ '>') : Lexes op.symbol.toList [op.token] rest := by
  rw [symbol_toList]
  cases op with
  | equal | concat | add | subtract | multiply | divide | power => exact lexes_symbol rfl rest
  | notEqual | lessEqual | greaterEqual => exact lexes_comparison (by simp) rfl
  | less =>
      refine lexes_comparison (.inl rfl) ?_
      cases rest with
      | nil => rfl
      | cons c rest =>
          obtain ⟨notEqual, notGreater⟩ := operand c rfl
          simp [comparisonToken?, notEqual, notGreater, BinaryOp.token]
  | greater =>
      refine lexes_comparison (.inr rfl) ?_
      cases rest with
      | nil => rfl
      | cons c rest =>
          obtain ⟨notEqual, _⟩ := operand c rfl
          simp [comparisonToken?, notEqual, BinaryOp.token]

/-! ## Texts and numbers -/

theorem readQuoted_doubled (cs : List Char) {rest : List Char} (stop : rest.head? ≠ some '"') :
    readQuoted (cs.flatMap (fun c => if c = '"' then ['"', '"'] else [c]) ++ '"' :: rest) =
      some (cs, (cs.flatMap fun c => if c = '"' then ['"', '"'] else [c]).length + 1) := by
  induction cs with
  | nil =>
      cases rest with
      | nil => simp [readQuoted]
      | cons c rest =>
          have other : c ≠ '"' := fun eq => stop (by rw [eq]; rfl)
          simp [readQuoted, other]
  | cons c cs ih =>
      rw [List.flatMap_cons]
      by_cases quote : c = '"'
      · subst quote
        rw [if_pos rfl, List.append_assoc, List.cons_append, List.singleton_append, readQuoted, ih]
        simp
      · rw [if_neg quote, List.append_assoc, List.singleton_append]
        rw [readQuoted.eq_3 _ _ (by intro _ eq; exact absurd eq quote), if_neg quote, ih]
        simp

theorem lexes_text (s : String) {rest : List Char} (stop : rest.head? ≠ some '"') :
    Lexes (Expr.quoteText s) [.text s] rest := by
  refine lexes_of_scan (by decide) fun offset => ?_
  have noSymbol : symbolToken? '"' = none := by decide
  rw [List.append_eq, List.append_assoc, List.singleton_append]
  simp [scan, noSymbol, comparisonToken?, readQuoted_doubled s.toList stop]

theorem word_opens {c : Char} (h : isWordChar c = true) (rest : List Char) :
    Text.isBlank c = false ∧ symbolToken? c = none ∧ comparisonToken? c rest = none ∧ c ≠ '"' := by
  have other : ∀ d : Char, isWordChar d = false → c ≠ d := by
    rintro d not rfl
    rw [h] at not
    cases not
  refine ⟨?_, ?_, ?_, other _ (by decide)⟩
  · simp only [isWordChar, Bool.or_eq_true, beq_iff_eq] at h
    rcases h with ((alphanum | rfl) | rfl) | rfl
    · exact Text.solid_of_isAlphanum alphanum
    · decide
    · decide
    · decide
  · unfold symbolToken?
    split <;> first | rfl | exact absurd rfl (other _ (by decide))
  · unfold comparisonToken?
    split <;> first | rfl | exact absurd rfl (other _ (by decide))

theorem lexes_number {cs rest : List Char} {x : Float} (plain : Decimal.Plain cs)
    (read : Decimal.readFinite cs = some x) (bounded : Bounded rest) :
    Lexes cs [.number x] rest := by
  have lexeme := numberLexeme_plain plain fun c mem => closers_not_number c (bounded c mem)
  obtain ⟨c, cs, rfl, digit⟩ := plain.head
  have wordChar : isWordChar c = true := by simp [isWordChar, Char.isAlphanum, digit]
  obtain ⟨solid, noSymbol, noComparison, noQuote⟩ := word_opens wordChar (cs ++ rest)
  refine lexes_of_scan solid fun offset => ?_
  rw [List.cons_append] at lexeme
  simp [scan, noSymbol, noComparison, noQuote, startsNumber, digit, lexeme, read]

theorem faults_number {cs rest : List Char} (plain : Decimal.Plain cs)
    (unreadable : Decimal.readFinite cs = none) (bounded : Bounded rest) : Faults cs rest := by
  have lexeme := numberLexeme_plain plain fun c mem => closers_not_number c (bounded c mem)
  obtain ⟨c, cs, rfl, digit⟩ := plain.head
  have wordChar : isWordChar c = true := by simp [isWordChar, Char.isAlphanum, digit]
  obtain ⟨solid, noSymbol, noComparison, noQuote⟩ := word_opens wordChar (cs ++ rest)
  refine faults_of_scan solid fun offset => ?_
  rw [List.cons_append] at lexeme
  simp [scan, noSymbol, noComparison, noQuote, startsNumber, digit, lexeme, unreadable]

/-! ## Error codes -/

def errorTail : ErrorCode → List Char
  | .malformed => ['E', 'R', 'R', 'O', 'R', '!']
  | .divideByZero => ['D', 'I', 'V', '/', '0', '!']
  | .circular => ['C', 'I', 'R', 'C', '!']
  | .brokenReference => ['R', 'E', 'F', '!']
  | .wrongType => ['V', 'A', 'L', 'U', 'E', '!']
  | .unknownName => ['N', 'A', 'M', 'E', '?']
  | .badNumber => ['N', 'U', 'M', '!']
  | .notAvailable => ['N', '/', 'A']

theorem error_toList (code : ErrorCode) : code.write.toList = '#' :: errorTail code := by
  cases code <;> decide

theorem errorTail_chars (code : ErrorCode) : ∀ c ∈ errorTail code, isErrorChar c = true :=
  forall_of_all (by cases code <;> decide)

theorem read_write (code : ErrorCode) : ErrorCode.read code.write = some code := by
  cases code <;> decide

theorem lexes_error (code : ErrorCode) {rest : List Char} (bounded : Bounded rest)
    (noSlash : rest.head? ≠ some '/') : Lexes code.write.toList [.error code] rest := by
  have stop : ∀ c ∈ rest.head?, isErrorChar c = false := by
    intro c mem
    exact closers_not_error c (bounded c mem) fun eq => noSlash (by rw [← eq]; exact mem)
  have text : String.ofList ('#' :: errorTail code) = code.write := by
    rw [← error_toList, String.ofList_toList]
  have noSymbol : symbolToken? '#' = none := by decide
  rw [error_toList]
  refine lexes_of_scan (by decide) fun offset => ?_
  simp only [scan, noSymbol, comparisonToken?, startsNumber,
    takeWhile_append_stop (errorTail_chars code) stop, text, read_write]
  simp

theorem mem_all (code : ErrorCode) : code ∈ ErrorCode.all := by
  cases code <;> decide

theorem take_ne_code_slash : ∀ code ∈ ErrorCode.all, ∀ other ∈ ErrorCode.all,
    ((other.write.toList.map Char.toLower).take (code.write.toList.length + 1)) ≠
      code.write.toList.map Char.toLower ++ ['/'] := by
  decide +kernel

theorem read_code_slash (code : ErrorCode) (tail : List Char) :
    ErrorCode.read (String.ofList (code.write.toList ++ '/' :: tail)) = none := by
  rw [ErrorCode.read, List.find?_eq_none]
  intro other mem same
  have lower := eq_of_beq same
  rw [String.toList_ofList] at lower
  refine take_ne_code_slash code (mem_all code) other mem ?_
  rw [lower, List.map_append, List.map_cons, List.take_append, List.take_of_length_le (by simp)]
  simp

theorem faults_error (code : ErrorCode) {rest : List Char} (slash : rest.head? = some '/') :
    Faults code.write.toList rest := by
  obtain ⟨rest, rfl⟩ : ∃ rest', rest = '/' :: rest' := by
    cases rest with
    | nil => cases slash
    | cons c rest =>
        cases slash
        exact ⟨rest, rfl⟩
  have text : String.ofList ('#' :: (errorTail code ++ '/' :: rest.takeWhile isErrorChar)) =
      String.ofList (code.write.toList ++ '/' :: rest.takeWhile isErrorChar) := by
    rw [error_toList, List.cons_append]
  have noSymbol : symbolToken? '#' = none := by decide
  rw [error_toList]
  refine faults_of_scan (by decide) fun offset => ?_
  -- The slash is scanned as part of the error code, and no code reads like that.
  have longer : (errorTail code ++ '/' :: rest).takeWhile isErrorChar =
      errorTail code ++ '/' :: rest.takeWhile isErrorChar := by
    rw [List.takeWhile_append_of_pos (errorTail_chars code), List.takeWhile_cons_of_pos (by decide)]
  simp only [scan, noSymbol, comparisonToken?, startsNumber, longer, text, read_code_slash]
  simp

/-! ## Words -/

theorem closers_word {rest : List Char} (bounded : Bounded rest) :
    ∀ c ∈ rest.head?, isWordChar c = false := fun c mem => closers_not_word c (bounded c mem)

theorem opensCall_bounded {rest : List Char} (bounded : Bounded rest) : opensCall rest = false := by
  cases rest with
  | nil => rfl
  | cons c rest =>
      obtain ⟨solid, noCall⟩ := closers_no_call c (bounded c rfl)
      simp [opensCall, solid, noCall]

theorem lexes_word {c : Char} {cs rest : List Char} (letter : c.isAlpha = true ∨ c = '$')
    (word : ∀ d ∈ cs, isWordChar d = true) (stop : ∀ d ∈ rest.head?, isWordChar d = false) :
    Lexes (c :: cs) [wordToken (c :: cs) rest] rest := by
  have wordChar : isWordChar c = true := by
    rcases letter with alpha | rfl
    · simp [isWordChar, Char.isAlphanum, alpha]
    · decide
  have noNumber : c.isDigit = false ∧ c ≠ '.' ∧ c ≠ '#' := by
    rcases letter with alpha | rfl
    · refine ⟨?_, ?_, ?_⟩
      · cases digit : c.isDigit with
        | false => rfl
        | true =>
            rw [isAlpha_eq_false_of_isDigit digit] at alpha
            cases alpha
      · rintro rfl
        exact absurd alpha (by decide)
      · rintro rfl
        exact absurd alpha (by decide)
    · decide
  obtain ⟨noDigit, noPoint, noHash⟩ := noNumber
  obtain ⟨solid, noSymbol, noComparison, noQuote⟩ := word_opens wordChar (cs ++ rest)
  refine lexes_of_scan solid fun offset => ?_
  have opens : (c.isAlpha || c == '_' || c == '$') = true := by
    rcases letter with alpha | rfl
    · simp [alpha]
    · decide
  simp only [scan, noSymbol, noComparison, noQuote, noHash, startsNumber, noDigit, opens,
    takeWhile_append_stop word stop, List.drop_left]
  simp [noPoint]

theorem not_boolean_of_digit {cs : List Char} {d : Char} (mem : d ∈ cs) (digit : d.isDigit = true) :
    readBoolean (String.ofList cs) = none := by
  rw [readBoolean, List.find?_eq_none]
  intro b _ same
  have lower := eq_of_beq same
  rw [String.toList_ofList] at lower
  have fixed : d.toLower = d := by
    rw [Char.toLower, dif_neg]
    intro upper
    have number := toNat_of_isDigit digit
    have bounds := UInt32.le_iff_toNat_le.1 upper.1
    have low : 'A'.val.toNat = 65 := rfl
    have value : d.val.toNat = d.toNat := rfl
    omega
  have found : d ∈ (booleanText b).toList.map Char.toLower := by
    rw [lower, ← fixed]
    exact List.mem_map_of_mem mem
  have letters : ∀ c ∈ (booleanText b).toList.map Char.toLower, c.isDigit = false :=
    forall_of_all (by cases b <;> decide)
  rw [letters d found] at digit
  cases digit

theorem isCellWord_write (ref : CellRef) : isCellWord ref.write = true := by
  obtain ⟨c, rest, letters, alpha⟩ := CellRef.head_columnLetters ref.column
  obtain ⟨d, rest', digits, _⟩ := CellRef.head_toDigits (ref.row + 1)
  have allDigits : (Nat.toDigits 10 (ref.row + 1)).all Char.isDigit = true :=
    List.all_eq_true.2 (CellRef.toDigits_isDigit _)
  rw [isCellWord, CellRef.splitMarker_write]
  dsimp only
  rw [dropWhile_append_stop (columnLetters_isAlpha _) (CellRef.head_rowText ref),
    CellRef.splitMarker_rowText, allDigits, letters, digits]
  simp [alpha]

theorem word_ref (ref : CellRef) :
    ∃ c cs, ref.write = c :: cs ∧ (c.isAlpha = true ∨ c = '$') ∧ ∀ d ∈ cs, isWordChar d = true := by
  have wordChars : ∀ c ∈ ref.write, isWordChar c = true := by
    intro c mem
    rcases CellRef.mem_write mem with alphanum | rfl
    · simp [isWordChar, alphanum]
    · decide
  have first : ∀ c ∈ ref.write.head?, c.isAlpha = true ∨ c = '$' := by
    obtain ⟨c, rest', letters, alpha⟩ := CellRef.head_columnLetters ref.column
    intro c' mem
    cases fixed : ref.columnFixed with
    | true =>
        rw [CellRef.write, fixed] at mem
        cases mem
        exact .inr rfl
    | false =>
        rw [CellRef.write, fixed, letters] at mem
        cases mem
        exact .inl alpha
  obtain ⟨c, cs, text⟩ := List.exists_cons_of_ne_nil (CellRef.write_ne_nil ref)
  rw [text] at wordChars first
  exact ⟨c, cs, text, first c rfl, fun d mem => wordChars d (List.mem_cons_of_mem _ mem)⟩

theorem readBoolean_ref (ref : CellRef) : readBoolean (String.ofList ref.write) = none := by
  obtain ⟨d, rest', digits, digit⟩ := CellRef.head_toDigits (ref.row + 1)
  exact not_boolean_of_digit (d := d) (by simp [CellRef.write, digits]) digit

theorem lexes_cell (ref : CellRef) {rest : List Char} (bounded : Bounded rest) :
    Lexes ref.write [.cell (String.ofList ref.write)] rest := by
  have token : wordToken ref.write rest = .cell (String.ofList ref.write) := by
    simp [wordToken, opensCall_bounded bounded, readBoolean_ref, isCellWord_write]
  obtain ⟨c, cs, text, letter, word⟩ := word_ref ref
  rw [← token, text]
  exact lexes_word letter word (closers_word bounded)

theorem lexes_boolean (b : Bool) {rest : List Char} (bounded : Bounded rest) :
    Lexes (booleanText b).toList [.boolean b] rest := by
  have read : readBoolean (booleanText b) = some b := by
    cases b <;> decide
  have token : wordToken (booleanText b).toList rest = .boolean b := by
    simp [wordToken, opensCall_bounded bounded, read]
  rw [← token]
  cases b with
  | true => exact lexes_word (.inl (by decide)) (forall_of_all (by decide)) (closers_word bounded)
  | false => exact lexes_word (.inl (by decide)) (forall_of_all (by decide)) (closers_word bounded)

theorem word_name (f : Builtin) :
    ∃ c cs, f.name.toList = c :: cs ∧ (c.isAlpha = true ∨ c = '$') ∧ ∀ d ∈ cs, isWordChar d = true := by
  have letters : ∀ d ∈ f.name.toList, d.isAlpha = true := forall_of_all (by cases f <;> decide)
  have nonempty : f.name.toList ≠ [] := by
    cases f <;> decide
  obtain ⟨c, cs, text⟩ := List.exists_cons_of_ne_nil nonempty
  rw [text] at letters
  refine ⟨c, cs, text, .inl (letters c List.mem_cons_self), fun d mem => ?_⟩
  simp [isWordChar, Char.isAlphanum, letters d (List.mem_cons_of_mem _ mem)]

theorem lexes_name (f : Builtin) (rest : List Char) :
    Lexes f.name.toList [.name f.name] ('(' :: rest) := by
  have token : wordToken f.name.toList ('(' :: rest) = .name f.name := by
    have opens : opensCall ('(' :: rest) = true := by
      have solid : Text.isBlank '(' = false := by decide
      simp [opensCall, solid]
    simp [wordToken, opens]
  have stop : ∀ d ∈ ('(' :: rest).head?, isWordChar d = false := by
    intro d mem
    cases mem
    decide
  obtain ⟨c, cs, text, letter, word⟩ := word_name f
  rw [← token, text]
  exact lexes_word letter word stop

end Lexer

end Spreadsheet
