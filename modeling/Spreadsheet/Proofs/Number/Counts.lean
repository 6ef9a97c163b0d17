import Spreadsheet.Proofs.Number.Order

namespace Spreadsheet.Binary64
open Float.Model Float.Model.UnpackedFloat

theorem not_lt_one {x : Float} (positive : isNegative x = false) (large : 1023 ≤ exponentField x) :
    ¬ x < 1 := by
  have one : (1 : Float).toModel.unpack = .finite .positive 4503599627370496 (-52) (by decide) := rfl
  have sign_eq : sign x = .positive := if_neg (by rw [positive]; exact Bool.false_ne_true)
  rw [lt_iff, one]
  by_cases full : exponentField x = 2047
  · rw [unpack_of_full full, sign_eq]
    split <;> exact Bool.false_ne_true
  · have size := le_significand (show exponentField x ≠ 0 by omega)
    have scale : shift x = exponentField x := max_eq_right (by omega)
    rw [unpack_of_not_full full, dif_neg (by omega), sign_eq]
    simp only [UnpackedFloat.lt, UnpackedFloat.compare, beq_iff_eq, Option.some.injEq,
      magnitude_lt_iff]
    omega

theorem truncate_nonpos {x : Float} (negative : isNegative x = true) : truncate x ≤ 0 := by
  simp only [truncate, negative, if_true]
  split <;> omega

theorem not_trunc_lt_one {x : Float} (h : 1 ≤ truncate x) : ¬ trunc x < 1 := by
  rw [trunc]
  split
  · rename_i whole
    have positive : isNegative x = false := by
      by_contra negative
      have notPositive := truncate_nonpos (Bool.not_eq_false _ ▸ negative)
      omega
    have scale : shift x = max 1 (exponentField x) := rfl
    exact not_lt_one positive (by omega)
  · rename_i fraction
    have small := natAbs_truncate_lt (Nat.lt_of_not_le fraction)
    have some : (truncate x).natAbs ≠ 0 := by omega
    obtain ⟨exponent, _, positive⟩ := fields_ofNat some ((log2_lt small).le.trans (by decide))
    rw [ofInt, if_neg (by omega)]
    exact not_lt_one positive (by omega)

theorem natBits_exact {n : Nat} (positive : n ≠ 0) (small : n.log2 ≤ 52) :
    natBits n = (n.log2 + 1022) * 2 ^ 52 + n <<< (52 - n.log2) := by
  unfold natBits
  rw [if_neg positive]
  dsimp only
  rw [if_neg (by omega), if_pos small, Nat.shiftLeft_eq]

theorem fractionField_ofBits {b : Nat} (size : b < 2 ^ 64) (number : b / 2 ^ 52 % 2048 ≠ 2047) :
    fractionField (Float.ofBits b.toUInt64) = b % 2 ^ 52 := by
  rw [fractionField, toNat_toBits_ofBits size number]
  rfl

theorem ofNat_exact {n : Nat} (positive : n ≠ 0) (small : n.log2 ≤ 52) :
    (ofNat n).isNaN = false ∧ isNegative (ofNat n) = false ∧
      significand (ofNat n) = n <<< (52 - n.log2) ∧ shift (ofNat n) = n.log2 + 1023 := by
  have bits := natBits_exact positive small
  obtain ⟨low, high⟩ := shiftLeft_bounds positive small
  obtain ⟨exponent, sign⟩ := fields_ofBits (b := natBits n) (by omega) (by omega)
  have fraction := fractionField_ofBits (b := natBits n) (by omega) (by omega)
  rw [← ofNat] at exponent sign fraction
  refine ⟨(not_special_of_isFinite (isFinite_iff.2 (by omega))).1, ?_, ?_, ?_⟩
  · rw [sign]
    exact decide_eq_false (by omega)
  · rw [significand, exponent, fraction, if_neg (by omega), Nat.one_shiftLeft]
    omega
  · rw [shift, exponent]
    omega

theorem wholePart_shiftLeft {n k : Nat} (small : k ≤ 52) :
    wholePart (n <<< (52 - k)) (k + 1023) = n := by
  rw [wholePart]
  split
  · rw [show k = 52 by omega]
    rfl
  · rw [show 1075 - (k + 1023) = 52 - k by omega, Nat.shiftLeft_shiftRight]

theorem truncate_ofNat {n : Nat} (h : n ≤ 2 ^ 53) : truncate (ofNat n) = n := by
  rcases Nat.lt_or_eq_of_le h with less | rfl
  · by_cases zero : n = 0
    · subst zero
      decide +kernel
    · have small : n.log2 ≤ 52 := Nat.le_of_lt_succ (log2_lt less)
      obtain ⟨number, positive, whole, scale⟩ := ofNat_exact zero small
      rw [truncate, number, positive, whole, scale, wholePart_shiftLeft small]
      rfl
  · decide +kernel

end Spreadsheet.Binary64
