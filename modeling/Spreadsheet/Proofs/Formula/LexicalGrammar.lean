import Spreadsheet.Proofs.Formula.Lexemes

/-!
# The lexical grammar

`Lexeme cs rest t` says that the characters `cs` are one token when `rest` follows them, and
`Spelled cs ts` that a text consists of lexemes with blanks between them. Numbers, words and error
codes are the longest of their kind. The lexer finds the tokens that a text spells, and finds a fault
exactly where it spells none (`tokens_eq_iff`).
-/

namespace Spreadsheet.Lexer

/-! ## Numerals -/

def IsSign (cs : List Char) : Prop := cs = [] ∨ cs = ['+'] ∨ cs = ['-']

def IsFraction (cs : List Char) : Prop :=
  cs = [] ∨ ∃ digits, cs = '.' :: digits ∧ ∀ c ∈ digits, c.isDigit = true

def IsExponent (cs : List Char) : Prop :=
  cs = [] ∨ ∃ e sign digits, cs = e :: sign ++ digits ∧ (e = 'e' ∨ e = 'E') ∧ IsSign sign ∧
    digits ≠ [] ∧ ∀ c ∈ digits, c.isDigit = true

def IsNumeral (cs : List Char) : Prop :=
  ∃ whole fraction exponent, cs = whole ++ fraction ++ exponent ∧
    (∀ c ∈ whole, c.isDigit = true) ∧ IsFraction fraction ∧ IsExponent exponent

theorem takeWhile_isDigit (cs : List Char) : ∀ c ∈ cs.takeWhile Char.isDigit, c.isDigit = true :=
  fun _ mem => List.mem_takeWhile_imp mem

theorem isFraction_lexeme (cs : List Char) : IsFraction (fractionLexeme cs) := by
  unfold fractionLexeme
  split
  · exact .inr ⟨_, rfl, takeWhile_isDigit _⟩
  · exact .inl rfl

theorem isSign_lexeme (cs : List Char) : IsSign (signLexeme cs) := by
  unfold signLexeme
  split
  · exact .inr (.inl rfl)
  · exact .inr (.inr rfl)
  · exact .inl rfl

theorem isExponent_lexeme (cs : List Char) : IsExponent (exponentLexeme cs) := by
  unfold exponentLexeme
  split
  · dsimp only
    split
    · rename_i letter
      exact .inr ⟨_, _, _, rfl, letter.1, isSign_lexeme _, letter.2, takeWhile_isDigit _⟩
    · exact .inl rfl
  · exact .inl rfl

theorem isNumeral_lexeme (cs : List Char) : IsNumeral (numberLexeme cs) :=
  ⟨_, _, _, rfl, takeWhile_isDigit cs, isFraction_lexeme _, isExponent_lexeme _⟩

theorem isPrefix_drop {cs ds front : List Char} (here : cs <+: front) (rest : ds <+: front.drop cs.length) :
    cs ++ ds <+: front := by
  obtain ⟨tail, rfl⟩ := here
  rw [List.drop_left] at rest
  exact (List.prefix_append_right_inj cs).2 rest

theorem fractionLexeme_within (cs : List Char) : fractionLexeme cs <+: cs := by
  unfold fractionLexeme
  split
  · exact (List.prefix_cons_inj _).2 (List.takeWhile_prefix _)
  · exact List.nil_prefix

theorem signLexeme_within (cs : List Char) : signLexeme cs <+: cs := by
  unfold signLexeme
  split
  · exact ⟨_, rfl⟩
  · exact ⟨_, rfl⟩
  · exact List.nil_prefix

theorem exponentLexeme_within (cs : List Char) : exponentLexeme cs <+: cs := by
  unfold exponentLexeme
  split
  · dsimp only
    split
    · exact (List.prefix_cons_inj _).2 (isPrefix_drop (signLexeme_within _) (List.takeWhile_prefix _))
    · exact List.nil_prefix
  · exact List.nil_prefix

theorem numberLexeme_within (cs : List Char) : numberLexeme cs <+: cs := by
  have whole : cs.takeWhile Char.isDigit <+: cs := List.takeWhile_prefix _
  have fraction := isPrefix_drop whole (fractionLexeme_within (cs.drop (cs.takeWhile Char.isDigit).length))
  refine isPrefix_drop fraction ?_
  rw [List.length_append, ← List.drop_drop]
  exact exponentLexeme_within _

theorem head_not_digit {cs : List Char} (h : cs.head? = some '.' ∨ cs.head? = some 'e' ∨ cs.head? = some 'E') :
    ∀ c ∈ cs.head?, c.isDigit = false := by
  intro c mem
  rcases h with head | head | head <;> rw [head] at mem <;> cases mem <;> decide

theorem exponent_head {exponent : List Char} (h : IsExponent exponent) (some : exponent ≠ [])
    (rest : List Char) : (exponent ++ rest).head? = .some 'e' ∨ (exponent ++ rest).head? = .some 'E' := by
  obtain rfl | ⟨e, sign, digits, rfl, rfl | rfl, _⟩ := h
  · exact absurd rfl some
  · exact .inl rfl
  · exact .inr rfl

theorem prefix_takeWhile {cs rest : List Char} (digits : ∀ c ∈ cs, c.isDigit = true) :
    cs <+: (cs ++ rest).takeWhile Char.isDigit := by
  rw [List.takeWhile_append_of_pos digits]
  exact List.prefix_append _ _

theorem exponent_longest {exponent : List Char} (h : IsExponent exponent) (rest : List Char) :
    exponent <+: exponentLexeme (exponent ++ rest) := by
  obtain rfl | ⟨e, sign, digits, rfl, letter, signed, nonempty, all⟩ := h
  · exact List.nil_prefix
  · obtain ⟨d, digits', rfl⟩ := List.exists_cons_of_ne_nil nonempty
    have sign_eq : signLexeme (sign ++ (d :: digits' ++ rest)) = sign := by
      rcases signed with rfl | rfl | rfl
      · have digit := all d List.mem_cons_self
        show signLexeme (d :: (digits' ++ rest)) = []
        unfold signLexeme
        split
        · rename_i eq
          cases eq
          exact absurd digit (by decide)
        · rename_i eq
          cases eq
          exact absurd digit (by decide)
        · rfl
      · rfl
      · rfl
    have found : (d :: digits' ++ rest).takeWhile Char.isDigit ≠ [] := by
      rw [List.cons_append, List.takeWhile_cons_of_pos (all d List.mem_cons_self)]
      exact List.cons_ne_nil _ _
    rw [List.append_assoc]
    show e :: (sign ++ d :: digits') <+: exponentLexeme (e :: (sign ++ (d :: digits' ++ rest)))
    unfold exponentLexeme
    dsimp only
    rw [sign_eq, List.drop_left, if_pos ⟨letter, found⟩, List.cons_append]
    exact (List.prefix_cons_inj _).2 ((List.prefix_append_right_inj sign).2 (prefix_takeWhile all))

theorem fraction_longest {fraction exponent : List Char} (h : IsFraction fraction)
    (h' : IsExponent exponent) (rest : List Char) :
    fraction ++ exponent <+: fractionLexeme (fraction ++ exponent ++ rest) ++
      exponentLexeme ((fraction ++ exponent ++ rest).drop
        (fractionLexeme (fraction ++ exponent ++ rest)).length) := by
  rw [List.append_assoc]
  obtain rfl | ⟨digits, rfl, all⟩ := h
  · rcases eq_or_ne exponent [] with rfl | some
    · exact List.nil_prefix
    · have head := exponent_head h' some rest
      have none : fractionLexeme (exponent ++ rest) = [] := by
        unfold fractionLexeme
        split
        · rename_i eq
          rw [eq] at head
          rcases head with head | head <;> cases head
        · rfl
      rw [List.nil_append, List.nil_append, none]
      exact exponent_longest h' rest
  · have found : fractionLexeme ('.' :: digits ++ (exponent ++ rest)) =
        '.' :: (digits ++ (exponent ++ rest)).takeWhile Char.isDigit := rfl
    rw [found]
    rcases eq_or_ne exponent [] with rfl | some
    · rw [List.append_nil, List.nil_append]
      exact ((List.prefix_cons_inj _).2 (prefix_takeWhile all)).trans (List.prefix_append _ _)
    · have stop := head_not_digit (.inr (exponent_head h' some rest))
      rw [takeWhile_append_stop all stop, List.drop_left]
      exact (List.prefix_append_right_inj _).2 (exponent_longest h' rest)

theorem numeral_longest {cs : List Char} (h : IsNumeral cs) (rest : List Char) :
    cs <+: numberLexeme (cs ++ rest) := by
  obtain ⟨whole, fraction, exponent, rfl, digits, fractional, exponential⟩ := h
  have further := fraction_longest fractional exponential rest
  unfold numberLexeme
  dsimp only
  rw [List.append_assoc whole, List.append_assoc whole]
  rcases eq_or_ne (fraction ++ exponent) [] with none | some
  · rw [none, List.append_nil, List.append_assoc]
    exact (prefix_takeWhile digits).trans (List.prefix_append _ _)
  · have stop : ∀ c ∈ (fraction ++ exponent ++ rest).head?, c.isDigit = false := by
      obtain rfl | ⟨ds, rfl, _⟩ := fractional
      · exact head_not_digit (.inr (exponent_head exponential some rest))
      · exact head_not_digit (.inl rfl)
    rw [takeWhile_append_stop digits stop, List.drop_left, List.append_assoc]
    exact (List.prefix_append_right_inj whole).2 further

/-! ## Longest lexemes -/

def Longest (kind : List Char → Prop) (cs rest : List Char) : Prop :=
  kind cs ∧ ∀ more, more <+: rest → kind (cs ++ more) → more = []

theorem longest_numeral_iff {cs rest : List Char} :
    Longest IsNumeral cs rest ↔ numberLexeme (cs ++ rest) = cs := by
  constructor
  · rintro ⟨numeral, longest⟩
    obtain ⟨more, found⟩ := numeral_longest numeral rest
    have within : more <+: rest := by
      have front := numberLexeme_within (cs ++ rest)
      rw [← found] at front
      exact (List.prefix_append_right_inj cs).1 front
    have none := longest more within (found ▸ isNumeral_lexeme (cs ++ rest))
    rw [← found, none, List.append_nil]
  · intro found
    refine ⟨found ▸ isNumeral_lexeme (cs ++ rest), fun more within numeral => ?_⟩
    obtain ⟨tail, rfl⟩ := within
    have longer := (numeral_longest numeral tail).length_le
    rw [List.append_assoc, found, List.length_append] at longer
    exact List.eq_nil_of_length_eq_zero (by omega)

def IsRun (first next : Char → Bool) (cs : List Char) : Prop :=
  ∃ c tail, cs = c :: tail ∧ first c = true ∧ ∀ d ∈ tail, next d = true

theorem longest_run_iff {first next : Char → Bool} {c : Char} {tail rest : List Char} :
    Longest (IsRun first next) (c :: tail) rest ↔
      first c = true ∧ (tail ++ rest).takeWhile next = tail := by
  constructor
  · rintro ⟨⟨_, _, same, opens, all⟩, longest⟩
    cases same
    refine ⟨opens, takeWhile_append_stop all fun d mem => ?_⟩
    cases stop : next d with
    | false => rfl
    | true =>
        obtain ⟨rest', rfl⟩ := List.head?_eq_some_iff.1 mem
        have further := longest [d] ⟨rest', rfl⟩ ⟨c, tail ++ [d], rfl, opens, by
          simpa [or_imp, forall_and, stop] using all⟩
        cases further
  · rintro ⟨opens, found⟩
    have all : ∀ d ∈ tail, next d = true := fun d mem => by
      rw [← found] at mem
      exact List.mem_takeWhile_imp mem
    refine ⟨⟨c, tail, rfl, opens, all⟩, fun more within longer => ?_⟩
    obtain ⟨_, _, same, _, all'⟩ := longer
    cases same
    rw [List.takeWhile_append_of_pos all] at found
    have none : rest.takeWhile next = [] := List.append_right_eq_self.1 found
    obtain ⟨rest', rfl⟩ := within
    rw [List.takeWhile_append_of_pos fun d mem => all' d (List.mem_append_right _ mem)] at none
    exact (List.append_eq_nil_iff.1 none).1

/-! ## Lexemes -/

def opensWord (c : Char) : Bool := c.isAlpha || c == '_' || c == '$'

def IsWord : List Char → Prop := IsRun opensWord isWordChar

def IsErrorText : List Char → Prop := IsRun (· == '#') isErrorChar

/-- The characters are one token in front of the rest. A word in front of a parenthesis is a name,
whatever it says. -/
inductive Lexeme : List Char → List Char → Token → Prop
  | symbol {c : Char} {rest : List Char} {t : Token} :
      symbolToken? c = some t → Lexeme [c] rest t
  | lessEqual (rest : List Char) : Lexeme ['<', '='] rest .lessEqual
  | notEqual (rest : List Char) : Lexeme ['<', '>'] rest .notEqual
  | less {rest : List Char} : (∀ c ∈ rest.head?, c ≠ '=' ∧ c ≠ '>') → Lexeme ['<'] rest .less
  | greaterEqual (rest : List Char) : Lexeme ['>', '='] rest .greaterEqual
  | greater {rest : List Char} : (∀ c ∈ rest.head?, c ≠ '=') → Lexeme ['>'] rest .greater
  | text {s : String} {rest : List Char} :
      rest.head? ≠ some '"' → Lexeme (Expr.quoteText s) rest (.text s)
  | number {c : Char} {tail rest : List Char} {x : Float} :
      startsNumber c (tail ++ rest) = true → Longest IsNumeral (c :: tail) rest →
      Decimal.readFinite (c :: tail) = some x → Lexeme (c :: tail) rest (.number x)
  | error {cs rest : List Char} {code : ErrorCode} : Longest IsErrorText cs rest →
      ErrorCode.read (String.ofList cs) = some code → Lexeme cs rest (.error code)
  | called {cs rest : List Char} : Longest IsWord cs rest → opensCall rest = true →
      Lexeme cs rest (.name (String.ofList cs))
  | boolean {cs rest : List Char} {b : Bool} : Longest IsWord cs rest → opensCall rest = false →
      readBoolean (String.ofList cs) = some b → Lexeme cs rest (.boolean b)
  | cell {cs rest : List Char} : Longest IsWord cs rest → opensCall rest = false →
      readBoolean (String.ofList cs) = none → isCellWord cs = true →
      Lexeme cs rest (.cell (String.ofList cs))
  | name {cs rest : List Char} : Longest IsWord cs rest → opensCall rest = false →
      readBoolean (String.ofList cs) = none → isCellWord cs = false →
      Lexeme cs rest (.name (String.ofList cs))

inductive Spelled : List Char → List Token → Prop
  | done : Spelled [] []
  | blank {c : Char} {cs : List Char} {ts : List Token} :
      Text.isBlank c = true → Spelled cs ts → Spelled (c :: cs) ts
  | token {cs rest : List Char} {t : Token} {ts : List Token} :
      Lexeme cs rest t → Spelled rest ts → Spelled (cs ++ rest) (t :: ts)

/-! ## The lexer finds the lexemes -/

theorem opensWord_only {c : Char} (h : opensWord c = true) :
    isWordChar c = true ∧ c.isDigit = false ∧ c ≠ '.' ∧ c ≠ '#' := by
  simp only [opensWord, Bool.or_eq_true, beq_iff_eq] at h
  rcases h with (alpha | rfl) | rfl
  · refine ⟨by simp [isWordChar, Char.isAlphanum, alpha], ?_, ?_, ?_⟩
    · cases digit : c.isDigit with
      | false => rfl
      | true =>
          rw [isAlpha_eq_false_of_isDigit digit] at alpha
          cases alpha
    · rintro rfl
      exact absurd alpha (by decide)
    · rintro rfl
      exact absurd alpha (by decide)
  · decide
  · decide

theorem startsNumber_only {c : Char} {rest : List Char} (h : startsNumber c rest = true) :
    isWordChar c = true := by
  simp only [startsNumber, Bool.or_eq_true, Bool.and_eq_true, beq_iff_eq] at h
  rcases h with digit | ⟨rfl, _⟩
  · simp [isWordChar, Char.isAlphanum, digit]
  · decide

theorem scan_word {c : Char} (h : opensWord c = true) (offset : Nat) (rest : List Char) :
    scan offset c rest =
      .ok (wordToken (c :: rest.takeWhile isWordChar) (rest.drop (rest.takeWhile isWordChar).length),
        (rest.takeWhile isWordChar).length) := by
  obtain ⟨wordChar, noDigit, noPoint, noHash⟩ := opensWord_only h
  obtain ⟨_, noSymbol, noComparison, noQuote⟩ := word_opens wordChar rest
  have opens : (c.isAlpha || c == '_' || c == '$') = true := h
  simp only [scan, noSymbol, noComparison, noQuote, noHash, startsNumber, noDigit, opens]
  simp [noPoint]

theorem scan_number {c : Char} {rest : List Char} (h : startsNumber c rest = true) (offset : Nat) :
    scan offset c rest =
      match Decimal.readFinite (numberLexeme (c :: rest)) with
      | some x => .ok (.number x, (numberLexeme (c :: rest)).length - 1)
      | none => .error (.badNumber (String.ofList (numberLexeme (c :: rest)))) := by
  obtain ⟨_, noSymbol, noComparison, noQuote⟩ := word_opens (startsNumber_only h) rest
  simp only [scan, noSymbol, noComparison, noQuote, h]
  rfl

theorem scan_hash (offset : Nat) (rest : List Char) :
    scan offset '#' rest =
      match ErrorCode.read (String.ofList ('#' :: rest.takeWhile isErrorChar)) with
      | some code => .ok (.error code, (rest.takeWhile isErrorChar).length)
      | none => .error (.badErrorCode (String.ofList ('#' :: rest.takeWhile isErrorChar))) := by
  have noSymbol : symbolToken? '#' = none := by decide
  have noComparison : comparisonToken? '#' rest = none := by simp [comparisonToken?]
  have noNumber : startsNumber '#' rest = false := by simp [startsNumber]
  have noQuote : '#' ≠ '"' := by decide
  unfold scan
  rw [noSymbol, noComparison, noNumber]
  dsimp only
  rw [if_neg noQuote, if_neg Bool.false_ne_true]
  exact if_pos rfl

theorem readQuoted_eq_some {cs s : List Char} {n : Nat} (h : readQuoted cs = some (s, n)) :
    ∃ rest, cs = s.flatMap (fun c => if c = '"' then ['"', '"'] else [c]) ++ '"' :: rest ∧
      n = (s.flatMap fun c => if c = '"' then ['"', '"'] else [c]).length + 1 ∧
      rest.head? ≠ some '"' := by
  fun_induction readQuoted cs generalizing s n with
  | case1 => cases h
  | case2 rest ih =>
      obtain ⟨⟨s', n'⟩, read, same⟩ := Option.map_eq_some_iff.1 h
      cases same
      obtain ⟨rest', rfl, rfl, stop⟩ := ih read
      exact ⟨rest', by simp, by simp, stop⟩
  | case3 rest single =>
      cases h
      refine ⟨rest, rfl, rfl, fun quote => ?_⟩
      obtain ⟨rest', rfl⟩ := List.head?_eq_some_iff.1 quote
      exact single rest' rfl rfl
  | case4 c rest _ other ih =>
      obtain ⟨⟨s', n'⟩, read, same⟩ := Option.map_eq_some_iff.1 h
      cases same
      obtain ⟨rest', rfl, rfl, stop⟩ := ih read
      exact ⟨rest', by simp [other], by simp [other], stop⟩

theorem lexeme_of_word {cs rest : List Char} (h : Longest IsWord cs rest) :
    Lexeme cs rest (wordToken cs rest) := by
  unfold wordToken
  dsimp only
  cases called : opensCall rest with
  | true => exact .called h called
  | false =>
      cases read : readBoolean (String.ofList cs) with
      | some b => exact .boolean h called read
      | none =>
          cases cell : isCellWord cs with
          | true => exact .cell h called read cell
          | false => exact .name h called read cell

theorem lexeme_of_comparison {c : Char} {rest : List Char} {t : Token} {n : Nat}
    (h : comparisonToken? c rest = some (t, n)) :
    ∃ tail rest', rest = tail ++ rest' ∧ n = tail.length ∧ Lexeme (c :: tail) rest' t := by
  unfold comparisonToken? at h
  split at h
  · cases h
    exact ⟨['='], _, rfl, rfl, .lessEqual _⟩
  · cases h
    exact ⟨['>'], _, rfl, rfl, .notEqual _⟩
  · rename_i notEqual notGreater
    cases h
    refine ⟨[], rest, rfl, rfl, .less fun c mem => ?_⟩
    obtain ⟨rest', rfl⟩ := List.head?_eq_some_iff.1 mem
    exact ⟨fun eq => notEqual rest' (by rw [eq]), fun eq => notGreater rest' (by rw [eq])⟩
  · cases h
    exact ⟨['='], _, rfl, rfl, .greaterEqual _⟩
  · rename_i notEqual
    cases h
    refine ⟨[], rest, rfl, rfl, .greater fun c mem eq => ?_⟩
    obtain ⟨rest', rfl⟩ := List.head?_eq_some_iff.1 mem
    exact notEqual rest' (by rw [eq])
  · cases h

theorem lexeme_of_number {offset : Nat} {c : Char} {rest : List Char} {t : Token} {n : Nat}
    (starts : startsNumber c rest = true) (h : scan offset c rest = .ok (t, n)) :
    ∃ tail rest', rest = tail ++ rest' ∧ n = tail.length ∧ Lexeme (c :: tail) rest' t := by
  rw [scan_number starts] at h
  have front := numberLexeme_within (c :: rest)
  cases found : numberLexeme (c :: rest) with
  | nil =>
      rw [found, show Decimal.readFinite [] = none by decide] at h
      cases h
  | cons c' tail =>
      rw [found] at front h
      obtain ⟨rfl, rest', rfl⟩ := List.cons_prefix_cons.1 front
      cases read : Decimal.readFinite (c' :: tail) with
      | none =>
          rw [read] at h
          cases h
      | some x =>
          rw [read] at h
          cases h
          exact ⟨tail, rest', rfl, rfl, .number starts (longest_numeral_iff.2 found) read⟩

theorem lexeme_of_hash {offset : Nat} {rest : List Char} {t : Token} {n : Nat}
    (h : scan offset '#' rest = .ok (t, n)) :
    ∃ tail rest', rest = tail ++ rest' ∧ n = tail.length ∧ Lexeme ('#' :: tail) rest' t := by
  rw [scan_hash] at h
  cases read : ErrorCode.read (String.ofList ('#' :: rest.takeWhile isErrorChar)) with
  | none =>
      rw [read] at h
      cases h
  | some code =>
      rw [read] at h
      cases h
      refine ⟨_, _, (List.takeWhile_append_dropWhile).symm, rfl, .error ?_ read⟩
      rw [IsErrorText, longest_run_iff, List.takeWhile_append_dropWhile]
      exact ⟨by decide, rfl⟩

theorem lexeme_of_scan {offset : Nat} {c : Char} {rest : List Char} {t : Token} {n : Nat}
    (h : scan offset c rest = .ok (t, n)) :
    ∃ tail rest', rest = tail ++ rest' ∧ n = tail.length ∧ Lexeme (c :: tail) rest' t := by
  have whole := h
  unfold scan at h
  split at h
  · rename_i t' symbol
    cases h
    exact ⟨[], rest, rfl, rfl, .symbol symbol⟩
  split at h
  · rename_i result comparison
    cases h
    exact lexeme_of_comparison comparison
  split at h
  · rename_i quote
    subst quote
    split at h
    · rename_i s n' read
      cases h
      obtain ⟨rest', rfl, rfl, stop⟩ := readQuoted_eq_some read
      refine ⟨_ ++ ['"'], rest', by rw [List.append_assoc]; rfl, by rw [List.length_append]; rfl, ?_⟩
      have text := Lexeme.text (s := String.ofList s) stop
      rw [Expr.quoteText, String.toList_ofList] at text
      exact text
    · cases h
  split at h
  · rename_i starts
    exact lexeme_of_number starts whole
  split at h
  · rename_i hash
    subst hash
    exact lexeme_of_hash whole
  split at h
  · rename_i opens
    rw [scan_word opens] at whole
    cases whole
    refine ⟨_, _, (List.prefix_iff_eq_append.1 (List.takeWhile_prefix isWordChar)).symm, rfl,
      lexeme_of_word ?_⟩
    rw [IsWord, longest_run_iff, List.prefix_iff_eq_append.1 (List.takeWhile_prefix isWordChar)]
    exact ⟨opens, rfl⟩
  · cases h

theorem scan_of_word {c : Char} {tail rest : List Char} (h : Longest IsWord (c :: tail) rest)
    (offset : Nat) :
    scan offset c (tail ++ rest) = .ok (wordToken (c :: tail) rest, tail.length) := by
  obtain ⟨opens, found⟩ := longest_run_iff.1 h
  rw [scan_word opens, found, List.drop_left]

theorem scan_comparison {c : Char} {rest : List Char} {result : Token × Nat}
    (angle : c = '<' ∨ c = '>') (h : comparisonToken? c rest = some result) (offset : Nat) :
    scan offset c rest = .ok result := by
  have noSymbol : symbolToken? c = none := by
    rcases angle with rfl | rfl <;> decide
  simp [scan, noSymbol, h]

theorem scan_of_lexeme {c : Char} {tail rest : List Char} {t : Token} (h : Lexeme (c :: tail) rest t)
    (offset : Nat) : scan offset c (tail ++ rest) = .ok (t, tail.length) := by
  generalize spelled : c :: tail = cs at h
  cases h with
  | symbol symbol =>
      cases spelled
      simp [scan, symbol]
  | lessEqual | notEqual =>
      cases spelled
      exact scan_comparison (.inl rfl) rfl offset
  | less stop =>
      cases spelled
      refine scan_comparison (.inl rfl) ?_ offset
      cases rest with
      | nil => rfl
      | cons d rest =>
          obtain ⟨notEqual, notGreater⟩ := stop d rfl
          simp [comparisonToken?, notEqual, notGreater]
  | greaterEqual =>
      cases spelled
      exact scan_comparison (.inr rfl) rfl offset
  | greater stop =>
      cases spelled
      refine scan_comparison (.inr rfl) ?_ offset
      cases rest with
      | nil => rfl
      | cons d rest =>
          have notEqual := stop d rfl
          simp [comparisonToken?, notEqual]
  | @text s _ stop =>
      cases spelled
      have noSymbol : symbolToken? '"' = none := by decide
      rw [List.append_eq, List.append_assoc, List.singleton_append]
      simp [scan, noSymbol, comparisonToken?, readQuoted_doubled s.toList stop]
  | number starts longest read =>
      cases spelled
      have found := longest_numeral_iff.1 longest
      rw [List.cons_append] at found
      rw [scan_number starts, found, read]
      rfl
  | @error _ _ code longest read =>
      subst spelled
      obtain ⟨hash, found⟩ := longest_run_iff.1 longest
      rw [beq_iff_eq] at hash
      subst hash
      rw [scan_hash, found, read]
  | called longest called =>
      subst spelled
      rw [scan_of_word longest, wordToken, if_pos called]
  | boolean longest called read =>
      subst spelled
      rw [scan_of_word longest, wordToken, if_neg (by simp [called]), read]
  | cell longest called read cell =>
      subst spelled
      rw [scan_of_word longest, wordToken, if_neg (by simp [called]), read]
      dsimp only
      rw [if_pos cell]
  | name longest called read cell =>
      subst spelled
      rw [scan_of_word longest, wordToken, if_neg (by simp [called]), read]
      dsimp only
      rw [if_neg (by simp [cell])]

theorem Lexeme.solid {cs rest : List Char} {t : Token} (h : Lexeme cs rest t) :
    ∃ c tail, cs = c :: tail ∧ Text.isBlank c = false := by
  have run : ∀ {first next : Char → Bool} {cs rest : List Char}, Longest (IsRun first next) cs rest →
      (∀ c, first c = true → Text.isBlank c = false) → ∃ c tail, cs = c :: tail ∧ Text.isBlank c = false := by
    rintro first next cs rest ⟨⟨c, tail, rfl, opens, _⟩, _⟩ solid
    exact ⟨c, tail, rfl, solid c opens⟩
  have word : ∀ c, opensWord c = true → Text.isBlank c = false :=
    fun c opens => (word_opens (opensWord_only opens).1 []).1
  cases h with
  | symbol symbol => exact ⟨_, _, rfl, symbol_solid symbol⟩
  | lessEqual | notEqual | less | greaterEqual | greater | text => exact ⟨_, _, rfl, by decide⟩
  | number starts => exact ⟨_, _, rfl, (word_opens (startsNumber_only starts) []).1⟩
  | error longest =>
      refine run longest fun c hash => ?_
      rw [beq_iff_eq] at hash
      subst hash
      decide
  | called longest => exact run longest word
  | boolean longest => exact run longest word
  | cell longest => exact run longest word
  | name longest => exact run longest word

/-! ## Texts and their tokens -/

theorem Spelled.of_dropWhile {cs : List Char} {ts : List Token}
    (h : Spelled (cs.dropWhile Text.isBlank) ts) : Spelled cs ts := by
  induction cs with
  | nil => exact h
  | cons c cs ih =>
      cases blank : Text.isBlank c with
      | true =>
          rw [List.dropWhile_cons_of_pos blank] at h
          exact .blank blank (ih h)
      | false => rwa [List.dropWhile_cons_of_neg (by simp [blank])] at h

theorem spelled_of_tokens {offset : Nat} {cs : List Char} (h : (tokens offset cs).2 = none) :
    Spelled cs (tokens offset cs).1 := by
  fun_induction tokens offset cs with
  | case1 offset cs none =>
      refine .of_dropWhile ?_
      rw [none]
      exact .done
  | case2 => cases h
  | case3 offset cs c rest front start t n scanned smaller ts fault more ih =>
      obtain ⟨tail, rest', rfl, rfl, lexeme⟩ := lexeme_of_scan scanned
      rw [more, List.drop_left] at ih
      refine .of_dropWhile ?_
      rw [front]
      exact .token lexeme (ih h)

theorem byteLength_cons (c : Char) (cs : List Char) :
    byteLength (c :: cs) = byteLength [c] + byteLength cs := by
  unfold byteLength
  rw [← List.singleton_append, String.ofList_append, String.utf8ByteSize_append]

theorem tokens_blank {c : Char} (blank : Text.isBlank c = true) (offset : Nat) (cs : List Char) :
    tokens offset (c :: cs) = tokens (offset + byteLength [c]) cs := by
  have start : offset + byteLength ((c :: cs).takeWhile Text.isBlank) =
      offset + byteLength [c] + byteLength (cs.takeWhile Text.isBlank) := by
    rw [List.takeWhile_cons_of_pos blank, byteLength_cons, Nat.add_assoc]
  have front : (c :: cs).dropWhile Text.isBlank = cs.dropWhile Text.isBlank :=
    List.dropWhile_cons_of_pos blank
  rw [tokens, tokens.eq_def _ cs]
  split
  · rename_i none
    rw [front] at none
    split
    · rfl
    · rename_i eq
      rw [none] at eq
      cases eq
  · rename_i c' rest eq
    rw [front] at eq
    split
    · rename_i none
      rw [none] at eq
      cases eq
    · rename_i eq'
      rw [eq] at eq'
      cases eq'
      rw [start]

theorem tokens_of_spelled {cs : List Char} {ts : List Token} (h : Spelled cs ts) (offset : Nat) :
    tokens offset cs = (ts, none) := by
  induction h generalizing offset with
  | done => exact tokens_nil offset
  | blank blank _ ih => rw [tokens_blank blank, ih]
  | token lexeme _ ih =>
      obtain ⟨c, tail, rfl, solid⟩ := lexeme.solid
      rw [List.cons_append, tokens_cons solid, scan_of_lexeme lexeme]
      dsimp only
      rw [List.drop_left, ih]

theorem tokens_eq_iff {offset : Nat} {cs : List Char} {ts : List Token} :
    tokens offset cs = (ts, none) ↔ Spelled cs ts := by
  constructor
  · intro h
    have spelled := @spelled_of_tokens offset cs (by rw [h])
    rwa [h] at spelled
  · exact fun h => tokens_of_spelled h offset

theorem Spelled.unique {cs : List Char} {ts ts' : List Token} (h : Spelled cs ts)
    (h' : Spelled cs ts') : ts = ts' := by
  have read := tokens_of_spelled h 0
  rw [tokens_of_spelled h' 0] at read
  exact (congrArg Prod.fst read).symm

end Spreadsheet.Lexer
