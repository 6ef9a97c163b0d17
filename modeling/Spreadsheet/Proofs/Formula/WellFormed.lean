import Spreadsheet.Formula.Move
import Spreadsheet.Proofs.Formula.Completeness
import Spreadsheet.Proofs.Formula.Lexing
import Spreadsheet.Proofs.Grid.Bounds
import Spreadsheet.Proofs.Number.Finite

namespace Spreadsheet
open Spreadsheet.Parser (negated parseRef)

theorem Builtin.ofName_name (f : Builtin) : ofName? f.name = some f := by
  cases f <;> decide

namespace Expr

inductive WellFormed : Expr → Prop
  | number {x : Float} : x.isFinite = true → WellFormed (.number x)
  | text (s : String) : WellFormed (.text s)
  | boolean (b : Bool) : WellFormed (.boolean b)
  | error (code : ErrorCode) : WellFormed (.error code)
  | cell {ref : CellRef} : ref.InBounds → WellFormed (.cell ref)
  | range {r : CellRange} : r.InBounds → WellFormed (.range r)
  | binary {op : BinaryOp} {left right : Expr} :
      WellFormed left → WellFormed right → WellFormed (.binary op left right)
  | negate {e : Expr} : (∀ x, e ≠ .number x) → WellFormed e → WellFormed (.negate e)
  | call {f : Builtin} {args : List Expr} :
      f.arity.Allows args.length → (∀ a ∈ args, WellFormed a) → WellFormed (.call f.name args)

theorem WellFormed.negated {e : Expr} (h : WellFormed e) : WellFormed (negated e) := by
  cases h with
  | number finite => exact .number (by rw [isFinite_neg, finite])
  | text s => exact .negate (by simp) (.text s)
  | boolean b => exact .negate (by simp) (.boolean b)
  | error code => exact .negate (by simp) (.error code)
  | cell bounds => exact .negate (by simp) (.cell bounds)
  | range bounds => exact .negate (by simp) (.range bounds)
  | binary hl hr => exact .negate (by simp) (.binary hl hr)
  | negate other inner => exact .negate (by simp) (.negate other inner)
  | call allowed hargs => exact .negate (by simp) (.call allowed hargs)

theorem moveArgs_eq_map (edit : LineEdit) (args : List Expr) :
    moveArgs edit args = args.map (move edit) := by
  induction args with
  | nil => rw [moveArgs, List.map_nil]
  | cons e rest ih => rw [moveArgs, ih, List.map_cons]

theorem move_ne_number {edit : LineEdit} {e : Expr} (other : ∀ x, e ≠ .number x) (x : Float) :
    e.move edit ≠ .number x := by
  cases e with
  | number y => exact absurd rfl (other y)
  | cell ref => cases moved : edit.moveRef ref <;> simp [move, moved]
  | range r => cases moved : edit.moveRange r <;> simp [move, moved]
  | text | boolean | error | binary | negate | call => simp [move]

theorem WellFormed.move {e : Expr} (edit : LineEdit) (h : WellFormed e) :
    WellFormed (e.move edit) := by
  induction h with
  | number finite => simpa only [Expr.move] using .number finite
  | text s => simpa only [Expr.move] using .text s
  | boolean b => simpa only [Expr.move] using .boolean b
  | error code => simpa only [Expr.move] using .error code
  | @cell ref bounds =>
      rw [Expr.move]
      cases moved : edit.moveRef ref with
      | none => exact .error _
      | some ref' => exact .cell (LineEdit.moveRef_inBounds bounds moved)
  | @range r bounds =>
      rw [Expr.move]
      cases moved : edit.moveRange r with
      | none => exact .error _
      | some r' => exact .range (LineEdit.moveRange_inBounds bounds moved)
  | binary _ _ ihl ihr =>
      rw [Expr.move]
      exact .binary ihl ihr
  | negate other _ ih =>
      rw [Expr.move]
      exact .negate (move_ne_number other) ih
  | @call f args allowed _ ih =>
      rw [Expr.move, moveArgs_eq_map]
      refine .call (by simpa using allowed) ?_
      intro a mem
      obtain ⟨a', mem', rfl⟩ := List.mem_map.1 mem
      exact ih a' mem'

theorem mem_argReferences {args : List Expr} {r : CellRange} :
    r ∈ argReferences args ↔ ∃ a ∈ args, r ∈ a.references := by
  induction args with
  | nil => simp [argReferences]
  | cons e args ih => simp [argReferences, ih]

theorem WellFormed.references_inBounds {e : Expr} (h : e.WellFormed) {r : CellRange}
    (refers : r ∈ e.references) : r.InBounds := by
  induction h with
  | cell bounds =>
      rw [references, List.mem_singleton] at refers
      rw [refers]
      exact ⟨bounds, bounds⟩
  | range bounds =>
      rw [references, List.mem_singleton] at refers
      rwa [refers]
  | binary _ _ ihl ihr =>
      rw [references] at refers
      exact (List.mem_append.1 refers).elim ihl ihr
  | negate _ _ ih =>
      rw [references] at refers
      exact ih refers
  | call _ _ ih =>
      rw [references] at refers
      obtain ⟨a, mem, inside⟩ := mem_argReferences.1 refers
      exact ih a mem inside
  | number | text | boolean | error => simp [references] at refers

end Expr

theorem CellRef.inBounds_of_parseRef {word : String} {ref : CellRef} (h : parseRef word = .ok ref) :
    ref.InBounds := by
  unfold parseRef at h
  cases parsed : CellRef.parse word.toList with
  | error fault =>
      rw [parsed] at h
      cases h
  | ok ref' =>
      rw [parsed] at h
      cases h
      exact inBounds_of_parse parsed

theorem mem_commaJoined {t : Token} {ts : List Token} {parts : List (List Token)}
    (mem : ts ∈ parts) (h : t ∈ ts) : t ∈ commaJoined parts := by
  induction parts with
  | nil => cases mem
  | cons first rest ih =>
      cases rest with
      | nil =>
          obtain rfl : ts = first := by simpa using mem
          exact h
      | cons second rest =>
          rw [commaJoined_cons (by simp)]
          rcases List.mem_cons.1 mem with rfl | later
          · exact List.mem_append_left _ h
          · exact List.mem_append_right _ (List.mem_cons_of_mem _ (ih later))

theorem Derives.wellFormed {n : Nat} {ts : List Token} {e : Expr} (h : Derives n ts e)
    (finite : ∀ x, .number x ∈ ts → x.isFinite = true) : e.WellFormed := by
  induction h with
  | tighter _ _ ih => exact ih finite
  | binary _ _ _ ihl ihr =>
      exact .binary (ihl fun x mem => finite x (by simp [mem]))
        (ihr fun x mem => finite x (by simp [mem]))
  | minus _ ih => exact (ih fun x mem => finite x (by simp [mem])).negated
  | plus _ ih => exact ih fun x mem => finite x (by simp [mem])
  | range _ parsed ih =>
      have start := ih fun x mem => finite x (by simp [mem])
      cases start with
      | cell bounds =>
          exact .range (CellRange.between_inBounds bounds (CellRef.inBounds_of_parseRef parsed))
  | number x => exact .number (finite x (by simp))
  | text s => exact .text s
  | boolean b => exact .boolean b
  | error code => exact .error code
  | cell parsed => exact .cell (CellRef.inBounds_of_parseRef parsed)
  | paren _ ih => exact ih fun x mem => finite x (by simp [mem])
  | @call word f parts _ allowed _ ih =>
      refine .call (by simpa using allowed) ?_
      intro a mem
      obtain ⟨part, mem', rfl⟩ := List.mem_map.1 mem
      refine ih part mem' fun x mem => finite x ?_
      have joined := mem_commaJoined (List.mem_map_of_mem (f := (·.1)) mem') mem
      simp [joined]

theorem wellFormed_of_parse {text : String} {e : Expr} (h : parseFormula text = .ok e) :
    e.WellFormed := by
  unfold parseFormula at h
  split at h
  · split at h
    · cases h
    · obtain ⟨_, derives⟩ := Descent.parseWhole_eq_ok_iff.1 h
      exact derives.wellFormed fun x mem => Lexer.tokens_finite _ _ mem
  · cases h

end Spreadsheet
