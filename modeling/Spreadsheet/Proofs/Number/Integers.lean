import Spreadsheet.Proofs.Number.Counts
import Spreadsheet.Proofs.Number.Magnitude

namespace Spreadsheet.Binary64

theorem saturate_of_bounds {n : Int} (low : -2 ^ 63 ≤ n) (high : n < 2 ^ 63) : saturate n = n := by
  have least : Int64.minValue.toInt = -2 ^ 63 := rfl
  have greatest : Int64.maxValue.toInt = 2 ^ 63 - 1 := rfl
  unfold saturate clamp
  omega

theorem natBits_le (n : Nat) : natBits n ≤ 2047 * 2 ^ 52 := by
  by_cases zero : n = 0
  · subst zero
    decide
  · by_cases finite : n.log2 < 1024
    · have bounds := natBits_bounds zero finite
      omega
    · unfold natBits
      dsimp only
      rw [if_neg zero, if_pos (Nat.not_lt.1 finite)]
      decide

theorem fields_ofInt {n : Int} (finite : natBits n.natAbs < 2047 * 2 ^ 52) :
    exponentField (ofInt n) = natBits n.natAbs / 2 ^ 52 ∧
      fractionField (ofInt n) = natBits n.natAbs % 2 ^ 52 ∧ isNegative (ofInt n) = decide (n < 0) := by
  by_cases negative : n < 0
  · have lifted : 1 <<< 63 + natBits n.natAbs = 2 ^ 63 + natBits n.natAbs := rfl
    obtain ⟨exponent, sign⟩ := fields_ofBits (b := 2 ^ 63 + natBits n.natAbs) (by omega) (by omega)
    have fraction := fractionField_ofBits (b := 2 ^ 63 + natBits n.natAbs) (by omega) (by omega)
    rw [ofInt, if_pos negative, lifted, exponent, fraction, sign]
    exact ⟨by omega, by omega, decide_eq_decide.2 (by omega)⟩
  · obtain ⟨exponent, sign⟩ := fields_ofBits (b := natBits n.natAbs) (by omega) (by omega)
    have fraction := fractionField_ofBits (b := natBits n.natAbs) (by omega) (by omega)
    rw [ofInt, if_neg negative, ofNat, exponent, fraction, sign]
    exact ⟨by omega, rfl, decide_eq_decide.2 (by omega)⟩

theorem isFinite_ofInt {n : Int} (finite : natBits n.natAbs < 2047 * 2 ^ 52) :
    (ofInt n).isFinite = true := by
  rw [isFinite_iff, (fields_ofInt finite).1]
  omega

theorem truncate_ofInt_eq {n : Int} (finite : natBits n.natAbs < 2047 * 2 ^ 52) :
    truncate (ofInt n) =
      if n < 0 then -truncate (ofNat n.natAbs) else truncate (ofNat n.natAbs) := by
  by_cases negative : n < 0
  · have positive : ofNat n.natAbs = ofInt n.natAbs := (if_neg (by omega)).symm
    have finite' : natBits (n.natAbs : Int).natAbs < 2047 * 2 ^ 52 := finite
    obtain ⟨exponent, fraction, sign⟩ := fields_ofInt finite
    obtain ⟨exponent', fraction', sign'⟩ := fields_ofInt finite'
    have whole : significand (ofInt n) = significand (ofInt n.natAbs) := by
      rw [significand, significand, exponent, exponent', fraction, fraction']
      rfl
    have scale : shift (ofInt n) = shift (ofInt n.natAbs) := by
      rw [shift, shift, exponent, exponent']
      rfl
    have upward : ¬ ((n.natAbs : Int) < 0) := by omega
    rw [if_pos negative, positive, truncate, truncate, whole, scale, sign, sign',
      (not_special_of_isFinite (isFinite_ofInt finite)).1,
      (not_special_of_isFinite (isFinite_ofInt finite')).1, decide_eq_true negative,
      decide_eq_false upward]
    rfl
  · rw [ofInt, if_neg negative, if_neg negative]

theorem natBits_lt_of_small {n : Nat} (small : n ≤ 2 ^ 53) : natBits n < 2047 * 2 ^ 52 := by
  by_cases zero : n = 0
  · subst zero
    decide
  · have digits := log2_le small
    have bounds := natBits_bounds zero (by omega)
    omega

theorem truncate_ofInt {n : Int} (small : n.natAbs ≤ 2 ^ 53) : truncate (ofInt n) = n := by
  rw [truncate_ofInt_eq (natBits_lt_of_small small), truncate_ofNat small]
  split <;> omega

theorem le_natBits {n : Nat} (large : 2 ^ 53 ≤ n) : 1076 * 2 ^ 52 ≤ natBits n := by
  have zero : n ≠ 0 := by omega
  have digits : 53 ≤ n.log2 := (Nat.le_log2 zero).2 large
  by_cases finite : n.log2 < 1024
  · have bounds := natBits_bounds zero finite
    omega
  · unfold natBits
    dsimp only
    rw [if_neg zero, if_pos (Nat.not_lt.1 finite)]
    decide

theorem le_natAbs_truncate_ofInt {n : Int} (large : 2 ^ 53 ≤ n.natAbs) :
    2 ^ 52 ≤ (truncate (ofInt n)).natAbs := by
  rcases Nat.lt_or_eq_of_le (natBits_le n.natAbs) with finite | full
  · have whole : 1075 ≤ shift (ofInt n) := by
      have least := le_natBits large
      rw [shift, (fields_ofInt finite).1]
      omega
    exact le_natAbs_truncate (not_special_of_isFinite (isFinite_ofInt finite)).1 whole
  · by_cases negative : n < 0
    · rw [ofInt, if_pos negative, full]
      decide +kernel
    · rw [ofInt, if_neg negative, ofNat, full]
      decide +kernel

theorem truncate64_ofInt {n : Int} (small : n.natAbs ≤ 2 ^ 53) : truncate64 (ofInt n) = n := by
  rw [truncate64, truncate_ofInt small, saturate_of_bounds (by omega) (by omega)]

theorem le_natAbs_saturate {n : Int} {k : Nat} (low : k ≤ n.natAbs) (small : k < 2 ^ 63) :
    k ≤ (saturate n).natAbs := by
  have least : Int64.minValue.toInt = -2 ^ 63 := rfl
  have greatest : Int64.maxValue.toInt = 2 ^ 63 - 1 := rfl
  unfold saturate clamp
  omega

theorem le_natAbs_truncate64_ofInt {n : Int} (far : 2 ^ 52 ≤ n.natAbs) :
    2 ^ 52 ≤ (truncate64 (ofInt n)).natAbs := by
  by_cases small : n.natAbs ≤ 2 ^ 53
  · rwa [truncate64_ofInt small]
  · exact le_natAbs_saturate (le_natAbs_truncate_ofInt (Nat.le_of_not_le small)) (by decide)

end Spreadsheet.Binary64
