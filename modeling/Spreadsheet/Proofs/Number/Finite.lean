import Mathlib
import Spreadsheet.Number.Notation

namespace Spreadsheet
open Float.Model Float.Model.UnpackedFloat

theorem isFinite_unpack_iff {b : BitVec Format.binary64.numBits} :
    (UnpackedFloat.unpack .binary64 b).isFinite = true ↔ unpackExponent b ≠ -1#_ := by
  unfold UnpackedFloat.unpack
  by_cases full : unpackExponent b = -1#_
  · rw [if_pos full]
    simp only [full, ne_eq, not_true_eq_false, iff_false]
    split <;> simp [UnpackedFloat.isFinite]
  · rw [if_neg full]
    simp only [full, ne_eq, not_false_eq_true, iff_true]
    split
    · split <;> rfl
    · rfl

theorem exponent_lt_of_unpack {b : BitVec Format.binary64.numBits} {s : Sign} {m : Nat} {e : Int}
    {positive : 0 < m} (h : UnpackedFloat.unpack .binary64 b = .finite s m e positive) :
    e < 972 := by
  have finite : (UnpackedFloat.unpack .binary64 b).isFinite = true := by rw [h]; rfl
  have notFull := isFinite_unpack_iff.1 finite
  have bound : (unpackExponent b).toNat ≠ 2047 := by
    intro eq
    exact notFull (BitVec.eq_of_toNat_eq (by rw [eq]; rfl))
  have width : (unpackExponent b).toNat < 2048 := (unpackExponent b).isLt
  have bias : Format.binary64.exponentBias = 1023 := by decide
  unfold UnpackedFloat.unpack at h
  simp only [notFull, if_false, bias] at h
  by_cases empty : unpackExponent b = 0#_
  · have zero : (unpackExponent b).toNat = 0 := by rw [empty]; rfl
    rw [if_pos empty] at h
    split at h
    · cases h
    · cases h
      omega
  · rw [if_neg empty] at h
    cases h
    omega

theorem isFinite_pack {s : Sign} {m : Nat} {e : Int} {positive : 0 < m} (small : e < 972) :
    (UnpackedFloat.unpack .binary64
      (UnpackedFloat.pack .binary64 (.finite s m e positive))).isFinite = true := by
  rw [isFinite_unpack_iff]
  have bias : Format.binary64.exponentBias = 1023 := by decide
  simp only [UnpackedFloat.pack, bias]
  rw [if_neg (by omega)]
  split
  · rw [unpackExponent_packComponents]
    intro full
    have field := congrArg BitVec.toNat full
    have allOnes : (-1#11).toNat = 2047 := by decide
    rw [BitVec.toNat_ofNat, Nat.mod_eq_of_lt (by omega), allOnes] at field
    omega
  · rw [unpackExponent_packComponents]
    decide

theorem isFinite_neg (x : Float) : (-x).isFinite = x.isFinite := by
  show (UnpackedFloat.unpack .binary64 (UnpackedFloat.pack .binary64
      (UnpackedFloat.unpack .binary64 x.toModel.toBits.toBitVec).neg)).isFinite =
    (UnpackedFloat.unpack .binary64 x.toModel.toBits.toBitVec).isFinite
  cases h : UnpackedFloat.unpack .binary64 x.toModel.toBits.toBitVec with
  | infinity s => cases s <;> decide +kernel
  | notANumber => decide +kernel
  | zero s => cases s <;> decide +kernel
  | finite s m e positive => exact isFinite_pack (exponent_lt_of_unpack h)

theorem isFinite_abs (x : Float) : x.abs.isFinite = x.isFinite := by
  show (UnpackedFloat.unpack .binary64 (UnpackedFloat.pack .binary64
      (UnpackedFloat.unpack .binary64 x.toModel.toBits.toBitVec).abs)).isFinite =
    (UnpackedFloat.unpack .binary64 x.toModel.toBits.toBitVec).isFinite
  cases h : UnpackedFloat.unpack .binary64 x.toModel.toBits.toBitVec with
  | infinity s => cases s <;> decide +kernel
  | notANumber => decide +kernel
  | zero s => cases s <;> decide +kernel
  | finite s m e positive => exact isFinite_pack (exponent_lt_of_unpack h)

theorem not_special_of_isFinite {x : Float} (finite : x.isFinite = true) :
    x.isNaN = false ∧ x.isInf = false := by
  have status : x.toModel.unpack.isFinite = true := finite
  show x.toModel.unpack.isNaN = false ∧ x.toModel.unpack.isInf = false
  cases h : x.toModel.unpack with
  | infinity s => rw [h] at status; cases status
  | notANumber => rw [h] at status; cases status
  | zero s => exact ⟨rfl, rfl⟩
  | finite s m e positive => exact ⟨rfl, rfl⟩

end Spreadsheet
