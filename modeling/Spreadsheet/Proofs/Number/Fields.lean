import Spreadsheet.Proofs.Number.Finite

namespace Spreadsheet.Binary64
open Float.Model Float.Model.UnpackedFloat

/-! ## Reading the fields -/

abbrev bits (x : Float) : BitVec Format.binary64.numBits := x.toModel.toBits.toBitVec

def sign (x : Float) : Sign := if isNegative x then .negative else .positive

theorem toNat_unpackExponent (b : BitVec Format.binary64.numBits) :
    (unpackExponent b).toNat = (b.toNat >>> 52) % 2048 := by
  simp [unpackExponent]

theorem toNat_unpackMantissa (b : BitVec Format.binary64.numBits) :
    (unpackMantissa b).toNat = b.toNat % (1 <<< 52) := by
  simp [unpackMantissa]

theorem ofBitVec_unpackSign (b : BitVec Format.binary64.numBits) :
    Sign.ofBitVec (unpackSign b) =
      if 1 <<< 63 ≤ b.toNat then .negative else .positive := by
  have width : b.toNat < 2 ^ 64 := b.isLt
  have bit : (unpackSign b).toNat = (b.toNat >>> 63) % 2 := by
    simp [unpackSign]
  rw [Nat.shiftRight_eq_div_pow] at bit
  unfold Sign.ofBitVec
  by_cases negative : 1 <<< 63 ≤ b.toNat
  · rw [if_pos negative, if_neg]
    intro zero
    rw [zero] at bit
    simp at bit negative
    omega
  · rw [if_neg negative, if_pos]
    apply BitVec.eq_of_toNat_eq
    rw [bit]
    simp at negative ⊢
    omega

theorem ofBitVec_sign (x : Float) :
    Sign.ofBitVec (unpackSign (bits x)) = sign x := by
  rw [ofBitVec_unpackSign, sign, isNegative]
  simp only [decide_eq_true_eq]
  rfl

theorem fractionField_lt (x : Float) : fractionField x < 1 <<< 52 := Nat.mod_lt _ (by decide)

theorem unpackExponent_eq_zero_iff {x : Float} :
    unpackExponent (bits x) = 0#_ ↔ exponentField x = 0 := by
  rw [← BitVec.toNat_inj, toNat_unpackExponent]
  rfl

theorem unpackExponent_eq_full_iff {x : Float} :
    unpackExponent (bits x) = -1#_ ↔ exponentField x = 2047 := by
  rw [← BitVec.toNat_inj, toNat_unpackExponent]
  rfl

theorem unpackMantissa_eq_zero_iff {x : Float} :
    unpackMantissa (bits x) = 0#_ ↔ fractionField x = 0 := by
  rw [← BitVec.toNat_inj, toNat_unpackMantissa]
  rfl

theorem unpack_of_subnormal {x : Float} (h : exponentField x = 0) :
    x.toModel.unpack =
      if zero : significand x = 0 then .zero (sign x)
      else .finite (sign x) (significand x) (shift x - 1075) (Nat.pos_of_ne_zero zero) := by
  have notFull : unpackExponent (bits x) ≠ -1#_ := by
    rw [Ne, unpackExponent_eq_full_iff, h]
    decide
  have whole : significand x = fractionField x := if_pos h
  have fraction : (unpackMantissa (bits x)).toNat = fractionField x := toNat_unpackMantissa _
  have lowest : shift x = 1 := by rw [shift, h]; rfl
  have exponent : (unpackExponent (bits x)).toNat = 0 := (toNat_unpackExponent _).trans h
  unfold Float.Model.unpack UnpackedFloat.unpack
  rw [if_neg notFull, if_pos (unpackExponent_eq_zero_iff.2 h), ofBitVec_sign]
  by_cases zero : fractionField x = 0
  · rw [dif_pos (unpackMantissa_eq_zero_iff.2 zero), dif_pos (whole.trans zero)]
  · rw [dif_neg (mt unpackMantissa_eq_zero_iff.1 zero), dif_neg (whole ▸ zero)]
    simp only [fraction, whole, lowest, exponent]
    rfl

theorem unpack_of_normal {x : Float} (some : exponentField x ≠ 0) (h : exponentField x ≠ 2047)
    (positive : 0 < significand x) :
    x.toModel.unpack = .finite (sign x) (significand x) (shift x - 1075) positive := by
  have exponent : (unpackExponent (bits x)).toNat = exponentField x := toNat_unpackExponent _
  have scaled : shift x = exponentField x := max_eq_right (Nat.pos_of_ne_zero some)
  have mantissa : (1#1 ++ unpackMantissa (bits x)).toNat = significand x := by
    rw [BitVec.toNat_append, show (unpackMantissa (bits x)).toNat = fractionField x from
      toNat_unpackMantissa _, significand, if_neg some,
      ← Nat.shiftLeft_add_eq_or_of_lt (fractionField_lt x)]
    rfl
  unfold Float.Model.unpack UnpackedFloat.unpack
  rw [if_neg (mt unpackExponent_eq_full_iff.1 h), if_neg (mt unpackExponent_eq_zero_iff.1 some)]
  simp only [ofBitVec_sign, mantissa, exponent, scaled]
  rfl

theorem unpack_of_not_full {x : Float} (h : exponentField x ≠ 2047) :
    x.toModel.unpack =
      if zero : significand x = 0 then .zero (sign x)
      else .finite (sign x) (significand x) (shift x - 1075) (Nat.pos_of_ne_zero zero) := by
  by_cases empty : exponentField x = 0
  · exact unpack_of_subnormal empty
  · have positive : 0 < significand x := by
      rw [significand, if_neg empty]
      exact Nat.add_pos_left (by decide) _
    rw [unpack_of_normal empty h positive, dif_neg (Nat.ne_of_gt positive)]

theorem unpack_of_full {x : Float} (h : exponentField x = 2047) :
    x.toModel.unpack = if fractionField x = 0 then .infinity (sign x) else .notANumber := by
  unfold Float.Model.unpack UnpackedFloat.unpack
  rw [if_pos (unpackExponent_eq_full_iff.2 h), ofBitVec_sign]
  exact if_congr unpackMantissa_eq_zero_iff rfl rfl

theorem isFinite_iff {x : Float} : x.isFinite = true ↔ exponentField x ≠ 2047 := by
  show (UnpackedFloat.unpack .binary64 (bits x)).isFinite = true ↔ _
  rw [isFinite_unpack_iff, ne_eq, unpackExponent_eq_full_iff]

theorem lt_iff {x y : Float} : x < y ↔ x.toModel.unpack.lt y.toModel.unpack = true := by
  show decide (x.toModel < y.toModel) = true ↔ _
  rw [decide_eq_true_iff]
  rfl

theorem lt_one_of_isNegative {x : Float} (number : x.isNaN = false) (h : isNegative x = true) :
    x < 1 := by
  have one : (1 : Float).toModel.unpack = .finite .positive 4503599627370496 (-52) (by decide) := rfl
  have negative : sign x = .negative := if_pos h
  have number : x.toModel.unpack.isNaN = false := number
  rw [lt_iff, one]
  by_cases full : exponentField x = 2047
  · rw [unpack_of_full full, negative] at number ⊢
    split at number
    · rename_i zero
      rw [if_pos zero]
      rfl
    · cases number
  · rw [unpack_of_not_full full, negative]
    split <;> rfl

/-! ## Numbers from integers -/

theorem toBits_ofBits {b : UInt64} (h : (b.toNat >>> 52) % 2048 ≠ 2047) :
    (Float.ofBits b).toBits = b := by
  let word : BitVec Format.binary64.numBits := b.toBitVec
  have number : ¬ isNaNBits word = true := by
    unfold isNaNBits
    rw [decide_eq_true_iff]
    rintro ⟨full, _⟩
    apply h
    have field := toNat_unpackExponent word
    rw [full] at field
    exact field.symm
  show UInt64.ofBitVec (UnpackedFloat.pack .binary64 (UnpackedFloat.unpack .binary64 b.toBitVec)) = b
  rw [pack_unpack word, if_neg number]

theorem shiftRight_bounds {n s : Nat} (positive : n ≠ 0) (top : n.log2 = 52 + s) :
    2 ^ 52 ≤ n >>> s ∧ n >>> s < 2 ^ 53 := by
  have low := Nat.log2_self_le positive
  have high := Nat.lt_log2_self (n := n)
  rw [top, Nat.pow_add] at low
  rw [top, Nat.add_right_comm, Nat.pow_add] at high
  rw [Nat.shiftRight_eq_div_pow]
  exact ⟨(Nat.le_div_iff_mul_le (Nat.two_pow_pos s)).2 low, Nat.div_lt_of_lt_mul (Nat.mul_comm _ _ ▸ high)⟩

theorem shiftRightToEven_bounds {n s : Nat} (positive : n ≠ 0) (top : n.log2 = 52 + s) :
    2 ^ 52 ≤ shiftRightToEven n s ∧ shiftRightToEven n s ≤ 2 ^ 53 := by
  obtain ⟨low, high⟩ := shiftRight_bounds positive top
  unfold shiftRightToEven
  dsimp only
  split <;> omega

theorem shiftLeft_bounds {n : Nat} (positive : n ≠ 0) (small : n.log2 ≤ 52) :
    2 ^ 52 ≤ n <<< (52 - n.log2) ∧ n <<< (52 - n.log2) < 2 ^ 53 := by
  have low := Nat.mul_le_mul_right (2 ^ (52 - n.log2)) (Nat.log2_self_le positive)
  have high := Nat.mul_lt_mul_of_pos_right (Nat.lt_log2_self (n := n)) (Nat.two_pow_pos (52 - n.log2))
  rw [← Nat.pow_add, Nat.add_sub_cancel' small] at low
  rw [← Nat.pow_add, show n.log2 + 1 + (52 - n.log2) = 53 by omega] at high
  rw [Nat.shiftLeft_eq]
  exact ⟨low, high⟩

theorem natBits_bounds {n : Nat} (positive : n ≠ 0) (small : n.log2 < 1024) :
    (n.log2 + 1023) * 2 ^ 52 ≤ natBits n ∧ natBits n ≤ (n.log2 + 1024) * 2 ^ 52 := by
  unfold natBits
  rw [if_neg positive]
  dsimp only
  rw [if_neg (by omega), Nat.shiftLeft_eq]
  by_cases few : n.log2 ≤ 52
  · obtain ⟨low, high⟩ := shiftLeft_bounds positive few
    rw [if_pos few]
    omega
  · obtain ⟨low, high⟩ := shiftRightToEven_bounds positive (Nat.add_sub_cancel' (Nat.le_of_not_ge few)).symm
    rw [if_neg few]
    omega

theorem natBits_field {n : Nat} (positive : n ≠ 0) (small : n.log2 ≤ 1022) :
    natBits n < 2 ^ 63 ∧
      (natBits n / 2 ^ 52 = n.log2 + 1023 ∨ natBits n / 2 ^ 52 = n.log2 + 1024) := by
  obtain ⟨low, high⟩ := natBits_bounds positive (by omega)
  omega

theorem toNat_toBits_ofBits {b : Nat} (size : b < 2 ^ 64) (number : b / 2 ^ 52 % 2048 ≠ 2047) :
    (Float.ofBits b.toUInt64).toBits.toNat = b := by
  have word : b.toUInt64.toNat = b := Nat.mod_eq_of_lt size
  rw [toBits_ofBits (by rwa [word, Nat.shiftRight_eq_div_pow]), word]

theorem fields_ofBits {b : Nat} (size : b < 2 ^ 64) (number : b / 2 ^ 52 % 2048 ≠ 2047) :
    exponentField (Float.ofBits b.toUInt64) = b / 2 ^ 52 % 2048 ∧
      isNegative (Float.ofBits b.toUInt64) = decide (2 ^ 63 ≤ b) := by
  have bits := toNat_toBits_ofBits size number
  constructor
  · rw [exponentField, bits, Nat.shiftRight_eq_div_pow]
  · rw [isNegative, bits]
    rfl

theorem fields_ofNat {n : Nat} (positive : n ≠ 0) (small : n.log2 ≤ 1022) :
    n.log2 + 1023 ≤ exponentField (ofNat n) ∧ exponentField (ofNat n) ≤ n.log2 + 1024 ∧
      isNegative (ofNat n) = false := by
  obtain ⟨size, field⟩ := natBits_field positive small
  obtain ⟨exponent, sign⟩ := fields_ofBits (b := natBits n) (by omega) (by omega)
  rw [ofNat, exponent, sign]
  exact ⟨by omega, by omega, decide_eq_false (by omega)⟩

theorem fields_ofInt_neg {n : Int} (negative : n < 0) (small : n.natAbs.log2 ≤ 1022) :
    n.natAbs.log2 + 1023 ≤ exponentField (ofInt n) ∧
      exponentField (ofInt n) ≤ n.natAbs.log2 + 1024 ∧ isNegative (ofInt n) = true := by
  obtain ⟨size, field⟩ := natBits_field (Int.natAbs_ne_zero.2 (Int.ne_of_lt negative)) small
  have lifted : 1 <<< 63 + natBits n.natAbs = 2 ^ 63 + natBits n.natAbs := rfl
  obtain ⟨exponent, sign⟩ := fields_ofBits (b := 2 ^ 63 + natBits n.natAbs) (by omega) (by omega)
  rw [ofInt, if_pos negative, lifted, exponent, sign]
  exact ⟨by omega, by omega, decide_eq_true (by omega)⟩

theorem ofInt_lt_one {n : Int} (notPositive : n ≤ 0) (small : n.natAbs.log2 < 1022) :
    ofInt n < 1 := by
  rcases Int.lt_or_eq_of_le notPositive with negative | rfl
  · obtain ⟨_, exponent, sign⟩ := fields_ofInt_neg negative (Nat.le_of_lt small)
    have finite : (ofInt n).isFinite = true := isFinite_iff.2 (by omega)
    exact lt_one_of_isNegative (not_special_of_isFinite finite).1 sign
  · decide +kernel

/-! ## Integer parts -/

theorem log2_lt {n k : Nat} (h : n < 2 ^ (k + 1)) : n.log2 < k + 1 := by
  by_cases zero : n = 0
  · rw [zero, Nat.log2_zero]
    exact Nat.succ_pos k
  · exact (Nat.log2_lt zero).2 h

theorem significand_lt (x : Float) : significand x < 2 ^ 53 := by
  have fraction : fractionField x < 2 ^ 52 := fractionField_lt x
  have implicit : 1 <<< 52 = 2 ^ 52 := rfl
  unfold significand
  split <;> omega

theorem le_significand {x : Float} (normal : exponentField x ≠ 0) : 2 ^ 52 ≤ significand x := by
  rw [significand, if_neg normal]
  exact Nat.le_add_right _ _

theorem le_significand_of_whole {x : Float} (whole : 1075 ≤ shift x) : 2 ^ 52 ≤ significand x := by
  apply le_significand
  intro zero
  rw [shift, zero] at whole
  exact absurd whole (by decide)

theorem natAbs_truncate_lt {x : Float} (fraction : shift x < 1075) :
    (truncate x).natAbs < 2 ^ 53 := by
  have size : wholePart (significand x) (shift x) ≤ significand x := by
    rw [wholePart, if_neg (by omega), Nat.shiftRight_eq_div_pow]
    exact Nat.div_le_self _ _
  have bound := significand_lt x
  unfold truncate
  dsimp only
  split
  · decide
  · split <;> omega

theorem truncate_pos {x : Float} (number : x.isNaN = false) (h : ¬ trunc x < 1) : 0 < truncate x := by
  by_cases whole : 1075 ≤ shift x
  · rw [trunc, if_pos whole] at h
    cases negative : isNegative x with
    | true => exact absurd (lt_one_of_isNegative number negative) h
    | false =>
        have size : 0 < significand x := (Nat.two_pow_pos 52).trans_le (le_significand_of_whole whole)
        simp only [truncate, number, negative, wholePart, if_pos whole, Bool.false_eq_true, if_false,
          Nat.shiftLeft_eq]
        exact_mod_cast Nat.mul_pos size (Nat.two_pow_pos _)
  · -- Converting the integer part back to a number keeps it apart from one.
    rw [trunc, if_neg whole] at h
    by_contra notPositive
    have small := natAbs_truncate_lt (Nat.lt_of_not_le whole)
    exact h (ofInt_lt_one (Int.not_lt.1 notPositive) ((log2_lt small).trans (by decide)))

end Spreadsheet.Binary64
