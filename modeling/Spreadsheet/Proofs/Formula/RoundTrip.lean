import Spreadsheet.Proofs.Formula.CanonicalText

namespace Spreadsheet
open Lexer

namespace Expr

def afterEdits (e : Expr) (edits : List LineEdit) : Expr :=
  edits.foldl (fun e edit => (e.moved? edit).getD e) e

theorem argNumbers_map {f : Expr → Expr} {args : List Expr}
    (h : ∀ a ∈ args, (f a).numbers = a.numbers) : argNumbers (args.map f) = argNumbers args := by
  induction args with
  | nil => rfl
  | cons e args ih =>
      rw [List.map_cons, argNumbers, argNumbers, h e List.mem_cons_self,
        ih fun a mem => h a (List.mem_cons_of_mem _ mem)]

theorem numbers_move (edit : LineEdit) {e : Expr} (h : e.WellFormed) :
    (e.move edit).numbers = e.numbers := by
  induction h with
  | number | text | boolean | error => simp only [move]
  | @cell ref _ =>
      rw [move]
      cases edit.moveRef ref with
      | none => rfl
      | some ref' => rfl
  | @range r _ =>
      rw [move]
      cases edit.moveRange r with
      | none => rfl
      | some r' => rfl
  | binary _ _ ihl ihr => rw [move, numbers, numbers, ihl, ihr]
  | negate _ _ ih => rw [move, numbers, numbers, ih]
  | @call f args _ _ ih =>
      rw [move, numbers, numbers, moveArgs_eq_map]
      exact argNumbers_map ih

theorem WellFormed.afterEdits {e : Expr} (h : e.WellFormed) (edits : List LineEdit) :
    (e.afterEdits edits).WellFormed ∧ (e.afterEdits edits).numbers = e.numbers := by
  induction edits generalizing e with
  | nil => exact ⟨h, rfl⟩
  | cons edit edits ih =>
      show ((e.moved? edit).getD e |>.afterEdits edits).WellFormed ∧
        ((e.moved? edit).getD e |>.afterEdits edits).numbers = e.numbers
      rw [moved?]
      split
      · rw [← numbers_move edit h]
        exact ih (h.move edit)
      · exact ih h

theorem parseFormula_operand {cs : List Char} (operand : Operand cs) :
    parseFormula (String.ofList ('=' :: cs)) = Parser.parseWhole (tokens 0 cs).2 (tokens 0 cs).1 := by
  have trimmed : Text.trimBlanks ('=' :: cs) = '=' :: cs := by
    refine Text.trimBlanks_eq_of_trimmed ⟨fun c head => ?_, fun c last => ?_⟩
    · cases head
      decide
    · rw [← List.singleton_append, List.getLast?_append_of_ne_nil _ operand.nonempty] at last
      exact operand.last c last
  have notBlank : cs.all Text.isBlank = false := by
    have last := List.getLast?_eq_some_getLast operand.nonempty
    rw [List.all_eq_false]
    refine ⟨_, List.getLast_mem operand.nonempty, ?_⟩
    rw [operand.last _ last]
    decide
  simp only [parseFormula, String.toList_ofList, trimmed, notBlank]
  rfl

theorem parseFormula_lexes {cs : List Char} {ts : List Token} {e : Expr} (operand : Operand cs)
    (lexes : Lexes cs ts []) (derives : Derives 1 ts e) :
    parseFormula (String.ofList ('=' :: cs)) = .ok e := by
  obtain ⟨offset, read⟩ := lexes 0
  rw [List.append_nil, tokens_nil, List.append_nil] at read
  rw [parseFormula_operand operand, read]
  exact Descent.parseWhole_eq_ok_iff.2 ⟨rfl, derives⟩

theorem parse_writeFormula_cases {e : Expr} (h : e.WellFormed) :
    if e.runsIntoSlash false || e.unreadable then ∃ fault, parseFormula e.writeFormula = .error fault
    else parseFormula e.writeFormula = .ok e.reread := by
  obtain ⟨ts, derives, cut⟩ := h.rendered
  have operand := h.operand
  have lexed : Cut (e.runsIntoSlash false || e.unreadable) e.chars ts [] := cut [] bounded_nil
  cases faulty : e.runsIntoSlash false || e.unreadable with
  | true =>
      rw [if_pos rfl, writeFormula, parseFormula_operand operand]
      rw [faulty] at lexed
      have faults : Faults e.chars [] := lexed
      cases parsed : Parser.parseWhole (tokens 0 e.chars).2 (tokens 0 e.chars).1 with
      | error fault => exact ⟨fault, rfl⟩
      | ok e'' =>
          have sound := (Descent.parseWhole_eq_ok_iff.1 parsed).1
          exact absurd sound (by simpa using faults 0)
  | false =>
      rw [if_neg (by decide)]
      rw [faulty] at lexed
      have lexes : Lexes e.chars ts [] := lexed
      have levels := e.level_bounds
      exact parseFormula_lexes operand lexes (derives.looser levels.1 (by omega))

theorem references_of_parse_writeFormula {e e' : Expr} (h : e.WellFormed)
    (parsed : parseFormula e.writeFormula = .ok e') : e'.references = e.references := by
  have outcome := parse_writeFormula_cases h
  split at outcome
  · obtain ⟨fault, refused⟩ := outcome
    rw [parsed] at refused
    cases refused
  · rw [parsed] at outcome
    injection outcome with tree
    rw [tree, references_reread]

theorem parse_writeFormula {e : Expr} (h : e.WellFormed)
    (readsBack : ∀ x ∈ e.numbers, x.isFinite = true → Decimal.ReadsBack x) :
    if e.runsIntoSlash false then ∃ fault, parseFormula e.writeFormula = .error fault
    else ∃ e', parseFormula e.writeFormula = .ok e' ∧ e'.same e = true := by
  have convertible : ∀ x ∈ e.numbers, Decimal.ReadsBack x := fun x mem => readsBack x mem (h.finite x mem)
  have readable : e.unreadable = false := by
    rw [unreadable, List.any_eq_false]
    intro x mem
    rw [(convertible x mem).readable.1]
    decide
  have outcome := parse_writeFormula_cases h
  rw [readable, Bool.or_false] at outcome
  cases runs : e.runsIntoSlash false with
  | true =>
      rw [runs] at outcome
      exact outcome
  | false =>
      rw [runs] at outcome
      exact ⟨e.reread, outcome, same_reread e convertible⟩

/-- A tree that was parsed and moved by line edits is read back from its own text as an equal tree,
unless an error code in the text runs into a slash; then the text does not parse. -/
theorem parse_writeFormula_afterEdits {text : String} {e : Expr} (parsed : parseFormula text = .ok e)
    (edits : List LineEdit)
    (readsBack : ∀ x ∈ e.numbers, x.isFinite = true → Decimal.ReadsBack x) :
    ((e.afterEdits edits).runsIntoSlash false = false →
      ∃ e', parseFormula (e.afterEdits edits).writeFormula = .ok e' ∧
        e'.same (e.afterEdits edits) = true) ∧
    ((e.afterEdits edits).runsIntoSlash false = true →
      ∃ fault, parseFormula (e.afterEdits edits).writeFormula = .error fault) := by
  obtain ⟨wellFormed, sameNumbers⟩ := (wellFormed_of_parse parsed).afterEdits edits
  have trip := parse_writeFormula wellFormed (by rw [sameNumbers]; exact readsBack)
  constructor
  · intro free
    rw [free] at trip
    exact trip
  · intro runs
    rw [runs] at trip
    exact trip

def halfOfFirst : Expr := .binary .divide (.cell { row := 0, column := 0 }) (.number 2)

theorem parse_halfOfFirst : parseFormula "=A1/2" = .ok halfOfFirst := by
  have text : CellRef.write { row := 0, column := 0 } = ['A', '1'] := by decide +kernel
  have plain : Decimal.Plain ['2'] := .whole (by decide) (forall_of_all (by decide))
  have operand : Operand ['A', '1', '/', '2'] :=
    .of_solid (by decide) (forall_head_of_all (by decide)) (forall_of_all (by decide))
  have bounds : ({ row := 0, column := 0 } : CellRef).InBounds := by decide
  have address := parseRef_write bounds
  have bounded : Bounded ['/', '2'] := bounded_cons (by decide)
  have reference := lexes_cell { row := 0, column := 0 } bounded
  have slash := lexes_symbol (c := '/') rfl ['2']
  have two := lexes_number (x := 2) plain (by decide +kernel) bounded_nil
  rw [text] at address reference
  refine parseFormula_lexes operand (reference.append (slash.append two)) ?_
  have left := (Derives.cell address).looser (m := 4) (by decide) (by decide)
  have right := (Derives.number 2).looser (m := 5) (by decide) (by decide)
  exact (Derives.binary (BinaryOp.operatorAt_token .divide) left right).looser (by decide) (by decide)

theorem halfOfFirst_readsBack :
    ∀ x ∈ halfOfFirst.numbers, x.isFinite = true → Decimal.ReadsBack x := by
  intro x mem _
  obtain rfl : x = 2 := by simpa [halfOfFirst, numbers] using mem
  exact ⟨2, by decide +kernel, by decide +kernel⟩

theorem parse_half_after_insert_and_delete :
    (∃ e', parseFormula (halfOfFirst.afterEdits [.insert .row 0]).writeFormula = .ok e' ∧
      e'.same (halfOfFirst.afterEdits [.insert .row 0]) = true) ∧
    ∃ fault, parseFormula (halfOfFirst.afterEdits [.delete .row 0]).writeFormula = .error fault :=
  ⟨(parse_writeFormula_afterEdits parse_halfOfFirst [.insert .row 0] halfOfFirst_readsBack).1
      (by decide),
    (parse_writeFormula_afterEdits parse_halfOfFirst [.delete .row 0] halfOfFirst_readsBack).2
      (by decide)⟩

theorem half_of_deleted_row_unreadable :
    parseFormula "=A1/2" = .ok halfOfFirst ∧
    (∀ x ∈ halfOfFirst.numbers, x.isFinite = true → Decimal.ReadsBack x) ∧
    (halfOfFirst.afterEdits [.delete .row 0]).writeFormula = "=#REF!/2" ∧
    parseFormula "=#REF!/2" = .error (.unparsable (.badErrorCode "#REF!/2")) := by
  refine ⟨parse_halfOfFirst, halfOfFirst_readsBack, ?_, ?_⟩
  · have after : halfOfFirst.afterEdits [.delete .row 0] =
        .binary .divide (.error .brokenReference) (.number 2) := rfl
    rw [after]
    decide +kernel
  · have scanned : scan 0 '#' ['R', 'E', 'F', '!', '/', '2'] = .error (.badErrorCode "#REF!/2") := rfl
    have faulty := tokens_cons (c := '#') (by decide) 0 ['R', 'E', 'F', '!', '/', '2']
    rw [scanned] at faulty
    have operand : Operand ['#', 'R', 'E', 'F', '!', '/', '2'] :=
      .of_solid (by decide) (forall_head_of_all (by decide)) (forall_of_all (by decide))
    have parsed := parseFormula_operand operand
    rw [faulty] at parsed
    exact parsed

end Expr

end Spreadsheet
