import Spreadsheet.Proofs.Formula.Derivations
import Spreadsheet.Proofs.Formula.LexicalGrammar

namespace Spreadsheet
open Spreadsheet.Derivation (Yields)
open Spreadsheet.Lexer (Spelled tokens_eq_iff)
open Spreadsheet.Parser (parseWhole)

def SpellsFormula (text : String) (ts : List Token) : Prop :=
  ∃ body, Text.trimBlanks text.toList = '=' :: body ∧ Spelled body ts

theorem SpellsFormula.unique {text : String} {ts ts' : List Token} (h : SpellsFormula text ts)
    (h' : SpellsFormula text ts') : ts = ts' := by
  obtain ⟨body, front, spelled⟩ := h
  obtain ⟨body', front', spelled'⟩ := h'
  rw [front] at front'
  cases front'
  exact spelled.unique spelled'

theorem not_blank_of_derives {body : List Char} {ts : List Token} {e : Expr} (spelled : Spelled body ts)
    (derives : Derives 1 ts e) : ¬ body.all Text.isBlank = true := by
  intro blank
  have none : body.dropWhile Text.isBlank = [] := List.dropWhile_eq_nil_iff.2 (List.all_eq_true.1 blank)
  have empty : Spelled body [] := .of_dropWhile (none ▸ .done)
  obtain ⟨t, rest, rfl, _⟩ := derives.head
  cases spelled.unique empty

theorem parseFormula_eq_ok_iff {text : String} {e : Expr} :
    parseFormula text = .ok e ↔ ∃ ts, SpellsFormula text ts ∧ Derives 1 ts e := by
  unfold parseFormula
  constructor
  · intro h
    split at h
    · rename_i body front
      split at h
      · cases h
      · obtain ⟨clean, derives⟩ := Descent.parseWhole_eq_ok_iff.1 h
        exact ⟨_, ⟨body, front, tokens_eq_iff.1 (Prod.ext rfl clean)⟩, derives⟩
    · cases h
  · rintro ⟨ts, ⟨body, front, spelled⟩, derives⟩
    rw [front]
    show (if body.all Text.isBlank then _ else parseWhole _ _) = _
    rw [if_neg (not_blank_of_derives spelled derives), tokens_eq_iff.2 spelled]
    exact Descent.parseWhole_eq_ok_iff.2 ⟨rfl, derives⟩

theorem parseFormula_eq_ok_iff_derivation {text : String} {e : Expr} :
    parseFormula text = .ok e ↔ ∃ d : Derivation, SpellsFormula text d.tokens ∧ Yields 1 d e := by
  rw [parseFormula_eq_ok_iff]
  constructor
  · rintro ⟨ts, spells, derives⟩
    obtain ⟨d, yields, rfl⟩ := Derivation.derives_iff.1 derives
    exact ⟨d, spells, yields⟩
  · rintro ⟨d, spells, yields⟩
    exact ⟨d.tokens, spells, yields.derives⟩

/-- A text is accepted with a tree exactly if it has a derivation with that tree. No text has two
derivations, and those with none are faulty. -/
theorem parseFormula_exact (text : String) :
    (∀ e, parseFormula text = .ok e ↔ ∃ d : Derivation, SpellsFormula text d.tokens ∧ Yields 1 d e) ∧
    (∀ (d d' : Derivation) (e e' : Expr), SpellsFormula text d.tokens → SpellsFormula text d'.tokens →
      Yields 1 d e → Yields 1 d' e' → d = d' ∧ e = e') ∧
    ((∃ fault, parseFormula text = .error fault) ↔
      ¬ ∃ (d : Derivation) (e : Expr), SpellsFormula text d.tokens ∧ Yields 1 d e) := by
  refine ⟨fun e => parseFormula_eq_ok_iff_derivation, ?_, ?_⟩
  · intro d d' e e' spells spells' yields yields'
    exact Derivation.unambiguous yields yields' (spells.unique spells')
  · constructor
    · rintro ⟨fault, refused⟩ ⟨d, e, spells, yields⟩
      rw [parseFormula_eq_ok_iff_derivation.2 ⟨d, spells, yields⟩] at refused
      cases refused
    · intro none
      cases parsed : parseFormula text with
      | error fault => exact ⟨fault, rfl⟩
      | ok e =>
          obtain ⟨d, spells, yields⟩ := parseFormula_eq_ok_iff_derivation.1 parsed
          exact absurd ⟨d, e, spells, yields⟩ none

end Spreadsheet
