import Spreadsheet.Eval.Operator
import Spreadsheet.Proofs.Eval.Matching

namespace Spreadsheet

theorem compareTexts_swap (s t : String) : compareTexts t s = (compareTexts s t).swap := by
  unfold compareTexts
  rw [← LinearOrder.compare_eq_compareOfLessAndEq, ← LinearOrder.compare_eq_compareOfLessAndEq]
  exact Std.OrientedCmp.eq_swap

namespace CellValue

theorem compare_swap (v w : CellValue) : w.compare v = (v.compare w).swap := by
  rcases v with _ | x | s | b | _ <;> rcases w with _ | y | t | c | _
  case empty.empty => rfl
  case number.number => exact compareNumbers_swap x y
  case number.empty => exact compareNumbers_swap x 0
  case empty.number => exact compareNumbers_swap 0 y
  case text.text => exact compareTexts_swap s t
  case text.empty =>
      simp only [compare]
      split <;> rfl
  case empty.text =>
      simp only [compare]
      split <;> rfl
  -- Booleans and values of different kinds are compared as natural numbers are.
  all_goals exact (Nat.compare_swap _ _).symm

/-- Whether a value has a place of its own in the order: it is neither blank nor a NaN. -/
def isPlaced : CellValue → Bool
  | empty => false
  | v => !v.isNaN

theorem isPlaced_iff {v : CellValue} : v.isPlaced = true ↔ v ≠ empty ∧ v.isNaN = false := by
  cases v <;> simp [isPlaced, isNaN]

theorem compare_of_placed {v w : CellValue} (hv : v.isPlaced = true) (hw : w.isPlaced = true) :
    v.compare w = Ord.compare v.sortKey w.sortKey := by
  obtain ⟨filled, number⟩ := isPlaced_iff.1 hv
  obtain ⟨filled', number'⟩ := isPlaced_iff.1 hw
  exact compare_eq_sortKey number number' (iff_of_false filled filled')

end CellValue

namespace FormulaValue

def comparand : FormulaValue → CellValue
  | scalar v => v
  | table _ => .error .wrongType

def isPlaced (v : FormulaValue) : Bool := v.comparand.isPlaced

theorem compare_eq_comparand (v w : FormulaValue) :
    v.compare w = v.comparand.compare w.comparand := by
  rcases v with v | _ <;> rcases w with w | _
  · rfl
  · cases v <;> rfl
  · cases w <;> rfl
  · rfl

theorem compare_swap (v w : FormulaValue) : w.compare v = (v.compare w).swap := by
  rw [compare_eq_comparand, compare_eq_comparand, CellValue.compare_swap]

theorem le_iff_sortKey {v w : FormulaValue} (hv : v.isPlaced = true) (hw : w.isPlaced = true) :
    v.compare w ≠ .gt ↔ v.comparand.sortKey ≤ w.comparand.sortKey := by
  rw [compare_eq_comparand, CellValue.compare_of_placed hv hw, compare_le_iff_le]

theorem compare_trans {u v w : FormulaValue} (hu : u.isPlaced = true) (hv : v.isPlaced = true)
    (hw : w.isPlaced = true) (first : u.compare v ≠ .gt) (second : v.compare w ≠ .gt) :
    u.compare w ≠ .gt := by
  rw [le_iff_sortKey hu hv] at first
  rw [le_iff_sortKey hv hw] at second
  rw [le_iff_sortKey hu hw]
  exact le_trans first second

end FormulaValue

/-! ## The comparison operators -/

namespace BinaryOp

def comparisons : List BinaryOp := [less, equal, greater]

theorem one_accepts (o : Ordering) :
    ∃ op ∈ comparisons, ∀ op' ∈ comparisons, op'.accepts o = (op' == op) := by
  cases o <;> decide

theorem apply_comparison {op : BinaryOp} (listed : op ∈ comparisons) {v w : CellValue}
    (hv : v.isError = false) (hw : w.isError = false) :
    op.apply (.scalar v) (.scalar w) = .boolean (op.accepts (v.compare w)) := by
  have left : (FormulaValue.scalar v).toScalar = .ok v := by
    cases v <;> first | rfl | cases hv
  have right : (FormulaValue.scalar w).toScalar = .ok w := by
    cases w <;> first | rfl | cases hw
  rw [apply, left, right]
  fin_cases listed <;> rfl

theorem one_holds (v w : CellValue) :
    ∃ op ∈ comparisons, (∀ op' ∈ comparisons, op'.accepts (v.compare w) = (op' == op)) ∧
      (v.isError = false → w.isError = false →
        ∀ op' ∈ comparisons, op'.apply (.scalar v) (.scalar w) = .boolean (op' == op)) := by
  obtain ⟨op, listed, holds⟩ := one_accepts (v.compare w)
  refine ⟨op, listed, holds, fun hv hw op' listed' => ?_⟩
  rw [apply_comparison listed' hv hw, holds op' listed']

end BinaryOp

/-! ## Sorted candidates -/

namespace Lookup

variable {mode : MatchMode} {key c : CellValue} {candidates : List CellValue} {i : Nat}

def Sorted (mode : MatchMode) (candidates : List CellValue) : Prop :=
  match mode with
  | .exact => True
  | .nextSmaller => candidates.IsChain fun c d => c.compare d ≠ .gt
  | .nextLarger => candidates.IsChain fun c d => c.compare d ≠ .lt

theorem Sorted.pairwise (sorted : Sorted mode candidates) (approximate : mode ≠ .exact)
    (placed : ∀ c ∈ candidates, c.isPlaced = true) :
    candidates.Pairwise fun c d => Nearer mode d.sortKey c.sortKey := by
  let Later (c d : CellValue) : Prop := Nearer mode d.sortKey c.sortKey
  have : Trans Later Later Later := ⟨fun first second => second.trans first⟩
  have keys : candidates.IsChain Later := by
    cases mode with
    | exact => exact absurd rfl approximate
    | nextSmaller =>
        refine List.IsChain.imp_of_mem_imp (fun c d hc hd le => ?_) sorted
        rw [CellValue.compare_of_placed (placed c hc) (placed d hd), compare_le_iff_le] at le
        exact le
    | nextLarger =>
        refine List.IsChain.imp_of_mem_imp (fun c d hc hd ge => ?_) sorted
        rw [CellValue.compare_of_placed (placed c hc) (placed d hd), compare_ge_iff_ge] at ge
        exact ge
  exact keys.pairwise

def suiting (mode : MatchMode) (key : CellValue) (candidates : List CellValue) : Set Nat :=
  {i | ∃ c, candidates[i]? = some c ∧ Suits mode key c}

theorem IsBest.isGreatest (h : IsBest mode key candidates i c) (approximate : mode ≠ .exact)
    (sorted : Sorted mode candidates) (placed : ∀ c ∈ candidates, c.isPlaced = true) :
    IsGreatest (suiting mode key candidates) i := by
  refine ⟨⟨c, h.found, h.suits⟩, fun j ⟨d, found, suits⟩ => ?_⟩
  by_contra behind
  have before : i < j := Nat.lt_of_not_le behind
  have number := (CellValue.isPlaced_iff.1 (placed c (List.mem_of_getElem? h.found))).2
  have number' := (CellValue.isPlaced_iff.1 (placed d (List.mem_of_getElem? found))).2
  have beats := h.beats j d found suits (Nat.ne_of_gt before)
  have farther := ((beats_iff approximate h.suits suits number number').1 beats).2 before
  obtain ⟨hi, rfl⟩ := List.getElem?_eq_some_iff.1 h.found
  obtain ⟨hj, rfl⟩ := List.getElem?_eq_some_iff.1 found
  exact farther (List.pairwise_iff_getElem.1 (sorted.pairwise approximate placed) i j hi hj before)

theorem findPosition_sorted (approximate : mode ≠ .exact) (sorted : Sorted mode candidates)
    (placed : ∀ c ∈ candidates, c.isPlaced = true) :
    findPosition key candidates mode = some i ↔ IsGreatest (suiting mode key candidates) i := by
  have numbers : ∀ c ∈ [] ++ candidates, c.isNaN = false := fun c mem =>
    (CellValue.isPlaced_iff.1 (placed c mem)).2
  have start : Standing mode key [] none := fun c mem => nomatch mem
  obtain ⟨final, standing, result⟩ := search_standing numbers (fun _ => rfl) start
  rw [List.nil_append] at standing
  have found : findPosition key candidates mode = final.map (·.1) := result
  rw [found]
  cases final with
  | none =>
      refine iff_of_false (by simp) fun greatest => ?_
      obtain ⟨c, found, suits⟩ := greatest.1
      exact standing c (List.mem_of_getElem? found) suits
  | some b =>
      have greatest := IsBest.isGreatest standing approximate sorted placed
      rw [Option.map_some, Option.some.injEq]
      constructor
      · rintro rfl
        exact greatest
      · exact greatest.unique

end Lookup

/-! ## The order -/

/-- Comparison is a sound order: exchanging the sides reverses it, on values with a place of their own
it is transitive, numbers come before texts and those before booleans, one of `<`, `=` and `>` holds of
two scalars, and a search among sorted candidates finds the last that suits the key. -/
theorem comparison_is_order :
    (∀ v w : FormulaValue, w.compare v = (v.compare w).swap) ∧
    (∀ u v w : FormulaValue, u.isPlaced = true → v.isPlaced = true → w.isPlaced = true →
      u.compare v ≠ .gt → v.compare w ≠ .gt → u.compare w ≠ .gt) ∧
    (∀ (x : Float) (s : String) (b : Bool),
      (FormulaValue.number x).compare (.text s) = .lt ∧
      (FormulaValue.text s).compare (.boolean b) = .lt ∧
      (FormulaValue.number x).compare (.boolean b) = .lt) ∧
    (∀ v w : CellValue, ∃ op ∈ BinaryOp.comparisons,
      (∀ op' ∈ BinaryOp.comparisons, op'.accepts (v.compare w) = (op' == op)) ∧
      (v.isError = false → w.isError = false → ∀ op' ∈ BinaryOp.comparisons,
        op'.apply (.scalar v) (.scalar w) = .boolean (op' == op))) ∧
    (∀ (mode : Lookup.MatchMode) (key : CellValue) (candidates : List CellValue),
      mode ≠ .exact →
      Lookup.Sorted mode candidates → (∀ c ∈ candidates, c.isPlaced = true) →
      ∀ i, Lookup.findPosition key candidates mode = some i ↔
        IsGreatest (Lookup.suiting mode key candidates) i) :=
  ⟨FormulaValue.compare_swap, fun _ _ _ => FormulaValue.compare_trans,
    fun _ _ _ => ⟨rfl, rfl, rfl⟩, BinaryOp.one_holds,
    fun _ _ _ approximate sorted placed _ => Lookup.findPosition_sorted approximate sorted placed⟩

def ascendingBreaks : List CellValue :=
  [.number 1, .number 10, .number 10, .text "from", .boolean false]

theorem ascendingBreaks_ordered :
    (FormulaValue.scalar .empty).compare (.number (0 / 0)) =
      ((FormulaValue.number (0 / 0)).compare (.scalar .empty)).swap ∧
    (FormulaValue.number 10).compare (.table []) ≠ .gt ∧
    IsGreatest (Lookup.suiting .nextSmaller (.number 12) ascendingBreaks) 2 := by
  obtain ⟨swap, trans, _, _, search⟩ := comparison_is_order
  have placed : ∀ c ∈ ascendingBreaks, c.isPlaced = true := by decide +kernel
  have sorted : Lookup.Sorted .nextSmaller ascendingBreaks := by
    show ascendingBreaks.IsChain fun c d => c.compare d ≠ .gt
    decide +kernel
  have found : Lookup.findPosition (.number 12) ascendingBreaks .nextSmaller = some 2 := by
    decide +kernel
  exact ⟨swap _ _,
    trans (.number 10) (.text "from") (.table []) (by decide +kernel) (by decide +kernel)
      (by decide +kernel) (by decide +kernel) (by decide +kernel),
    (search .nextSmaller (.number 12) ascendingBreaks (by decide) sorted placed 2).1 found⟩

end Spreadsheet
