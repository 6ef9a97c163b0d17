import Mathlib.Data.Prod.Lex
import Mathlib.Order.Compare
import Spreadsheet.Eval.Compare
import Spreadsheet.Proofs.Number.Fields

namespace Spreadsheet

namespace Binary64
open Float.Model

abbrev OrderKey := ℤ ×ₗ ℤ ×ₗ ℤ

/-- The class of a number, from the negative infinity upward, and its exponent and significand. What
is no number has no place in the order. -/
def unpackedKey : UnpackedFloat → OrderKey
  | .infinity .negative => toLex (-2, toLex (0, 0))
  | .finite .negative m e _ => toLex (-1, toLex (-e, -m))
  | .zero _ => toLex (0, toLex (0, 0))
  | .notANumber => toLex (0, toLex (0, 0))
  | .finite .positive m e _ => toLex (1, toLex (e, m))
  | .infinity .positive => toLex (2, toLex (0, 0))

def orderKey (x : Float) : OrderKey := unpackedKey x.toModel.unpack

theorem magnitude_lt_iff {m m' : ℕ} {e e' : ℤ} :
    (compare e e').then (compare m m') = .lt ↔ e < e' ∨ e = e' ∧ m < m' := by
  rw [Ordering.then_eq_lt, compare_lt_iff_lt, compare_eq_iff_eq, compare_lt_iff_lt]

theorem magnitude_gt_iff {m m' : ℕ} {e e' : ℤ} :
    (compare e e').then (compare m m') = .gt ↔ e' < e ∨ e = e' ∧ m' < m := by
  rw [Ordering.then_eq_gt, compare_gt_iff_gt, compare_eq_iff_eq, compare_gt_iff_gt]

theorem unpacked_lt_iff {u v : UnpackedFloat} (hu : u.isNaN = false) (hv : v.isNaN = false) :
    u.lt v = true ↔ unpackedKey u < unpackedKey v := by
  have signs : compare UnpackedFloat.Sign.negative .positive = .lt := by decide
  rcases u with (_ | _) | _ | _ | ⟨_ | _, m, e, _⟩ <;> try contradiction
  all_goals rcases v with (_ | _) | _ | _ | ⟨_ | _, m', e', _⟩ <;> try contradiction
  all_goals
    simp [UnpackedFloat.lt, UnpackedFloat.compare, unpackedKey, Prod.Lex.toLex_lt_toLex,
      magnitude_lt_iff, magnitude_gt_iff, signs]

theorem lt_iff_orderKey {x y : Float} (hx : x.isNaN = false) (hy : y.isNaN = false) :
    x < y ↔ orderKey x < orderKey y := by
  rw [lt_iff, unpacked_lt_iff hx hy]
  rfl

theorem numbers_of_lt {x y : Float} (h : x < y) : x.isNaN = false ∧ y.isNaN = false := by
  rw [lt_iff] at h
  show x.toModel.unpack.isNaN = false ∧ y.toModel.unpack.isNaN = false
  generalize x.toModel.unpack = u at *
  generalize y.toModel.unpack = v at *
  cases u <;> cases v <;> first | exact ⟨rfl, rfl⟩ | cases h

theorem not_lt_of_lt {x y : Float} (h : x < y) : ¬ y < x := by
  obtain ⟨hx, hy⟩ := numbers_of_lt h
  rw [lt_iff_orderKey hx hy] at h
  rw [lt_iff_orderKey hy hx]
  exact lt_asymm h

end Binary64

theorem compareNumbers_eq_orderKey {x y : Float} (hx : x.isNaN = false) (hy : y.isNaN = false) :
    compareNumbers x y = compare (Binary64.orderKey x) (Binary64.orderKey y) := by
  simp only [compareNumbers, Binary64.lt_iff_orderKey hx hy, Binary64.lt_iff_orderKey hy hx]
  rcases lt_trichotomy (Binary64.orderKey x) (Binary64.orderKey y) with less | same | greater
  · rw [if_pos less, compare_lt_iff_lt.2 less]
  · rw [same, if_neg (lt_irrefl _), if_neg (lt_irrefl _), compare_eq_iff_eq.2 rfl]
  · rw [if_neg (lt_asymm greater), if_pos greater, compare_gt_iff_gt.2 greater]

theorem compareNumbers_swap (x y : Float) : compareNumbers y x = (compareNumbers x y).swap := by
  unfold compareNumbers
  by_cases less : x < y
  · rw [if_pos less, if_neg (Binary64.not_lt_of_lt less), if_pos less]
    rfl
  · rw [if_neg less, if_neg less]
    split <;> rfl

end Spreadsheet
