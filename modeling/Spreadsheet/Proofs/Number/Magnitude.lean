import Spreadsheet.Number.Fixed
import Spreadsheet.Proofs.Number.Fields

namespace Spreadsheet

namespace Binary64
open Float.Model Float.Model.UnpackedFloat

/-! ## Rounding -/

def Scaled (k : Int) : UnpackedFloat → Prop
  | .zero _ => True
  | .finite _ _ e _ => e ≤ k
  | .infinity _ => False
  | .notANumber => False

theorem mantissa_shiftRight (em : ExtendedMantissa) (n : Nat) :
    (em >>> n).mantissa = em.mantissa / 2 ^ n := by
  show (n.repeat ExtendedMantissa.shiftRightOne em).mantissa = _
  induction n with
  | zero => simp [Nat.repeat]
  | succ n ih =>
      rw [Nat.repeat, ExtendedMantissa.shiftRightOne, ih, Nat.div_div_eq_div_mul, Nat.pow_succ]

theorem mantissa_ofMantissaAndAccuracy (m : Nat) (accuracy : Accuracy) :
    (ExtendedMantissa.ofMantissaAndAccuracy m accuracy).mantissa = m := by
  unfold ExtendedMantissa.ofMantissaAndAccuracy
  split <;> rfl

theorem roundedMantissa_le (em : ExtendedMantissa) : em.roundedMantissa ≤ em.mantissa + 1 := by
  unfold ExtendedMantissa.roundedMantissa Accuracy.roundToNearestEven
  split <;> omega

theorem log2_le {n k : Nat} (h : n ≤ 2 ^ k) : n.log2 ≤ k := by
  have bound : n < 2 ^ (k + 1) := by
    rw [Nat.pow_succ]
    have positive := Nat.two_pow_pos k
    omega
  exact Nat.le_of_lt_succ (log2_lt bound)

theorem rounded_shift_le {m l s : Nat} (size : m < 2 ^ l) : m / 2 ^ s + 1 ≤ 2 ^ (l - s) := by
  apply Nat.div_lt_of_lt_mul
  rw [← Nat.pow_add]
  exact size.trans_le (Nat.pow_le_pow_right (by decide) (by omega))

section
variable {m l : Nat} {e t : Int}

theorem targetExponent_le (top : m.log2 + e ≤ t) (least : -1022 ≤ t) :
    Format.targetExponent .binary64 (totalExponent m e) ≤ t - 52 := by
  have precision : Format.mantissaBits .binary64 = 53 := rfl
  have lowest : Format.minExponent .binary64 = -1074 := rfl
  unfold Format.targetExponent totalExponent
  rw [precision, lowest]
  omega

theorem add_toNat_sub_le {e target k : Int} (low : e ≤ k) (high : target ≤ k) :
    e + (target - e).toNat ≤ k := by omega

theorem roundWithAccuracy_scaled (sign : Sign) (accuracy : Accuracy) (size : m < 2 ^ l)
    (top : l + e ≤ t) (low : e + 52 ≤ t) (least : -1022 ≤ t) :
    Scaled (t - 52) (roundWithAccuracy .binary64 sign m e accuracy) := by
  have digits := log2_le size.le
  have first := targetExponent_le (m := m) (e := e) (by omega) least
  generalize shift : (Format.targetExponent .binary64 (totalExponent m e) - e).toNat = s
  have shifted : e + s ≤ t - 52 := by omega
  let em := ExtendedMantissa.ofMantissaAndAccuracy m accuracy >>> s
  have rounded : em.roundedMantissa ≤ 2 ^ (l - s) := by
    refine (roundedMantissa_le em).trans ?_
    rw [mantissa_shiftRight, mantissa_ofMantissaAndAccuracy]
    exact rounded_shift_le size
  have digits' := log2_le rounded
  have second := targetExponent_le (m := em.roundedMantissa) (e := e + s) (by omega) least
  -- Rounding may have carried into the next power of two, so the target is computed again.
  unfold roundWithAccuracy shiftToTargetExponent shiftToExponent
  dsimp only
  rw [shift]
  split
  · trivial
  · exact add_toNat_sub_le shifted second

theorem round_scaled (sign : Sign) (size : m < 2 ^ l) (top : l + e ≤ t) (low : e + 52 ≤ t)
    (least : -1022 ≤ t) : Scaled (t - 52) (UnpackedFloat.round .binary64 sign m e) := by
  unfold UnpackedFloat.round decreaseExponent
  dsimp only
  generalize (e - Format.targetExponent .binary64 (totalExponent m e)).toNat = s
  have size' : m <<< s < 2 ^ (l + s) := by
    rw [Nat.shiftLeft_eq, Nat.pow_add]
    exact Nat.mul_lt_mul_of_pos_right size (Nat.two_pow_pos s)
  exact roundWithAccuracy_scaled sign .exact size' (by omega) (by omega) least

theorem normalize_scaled {n : Int} (zero : Sign) (size : n.natAbs < 2 ^ l) (top : l + e ≤ t)
    (low : e + 52 ≤ t) (least : -1022 ≤ t) : Scaled (t - 52) (UnpackedFloat.normalize .binary64 n e zero) := by
  unfold UnpackedFloat.normalize
  split
  · exact round_scaled .negative (by omega) top low least
  · trivial
  · exact round_scaled .positive (by omega) top low least

end

/-! ## Operations -/

def Operand (k : Int) : UnpackedFloat → Prop
  | .zero _ => True
  | .finite _ m e _ => m < 2 ^ 53 ∧ e ≤ k
  | .infinity _ => False
  | .notANumber => False

section
variable {u v : UnpackedFloat} {j k : Int}

theorem Operand.neg (h : Operand k u) : Operand k u.neg := by
  cases u with
  | zero | finite => exact h
  | infinity | notANumber => exact h.elim

theorem natAbs_apply (s : Sign) (n : Int) : (s.apply n).natAbs = n.natAbs := by
  cases s
  · exact Int.natAbs_neg n
  · rfl

theorem shifted_lt {m : Nat} {e : Int} (low : Int) (size : m < 2 ^ 53) (high : e ≤ k) :
    m <<< (e - low).toNat < 2 ^ (53 + (k - low).toNat) := by
  rw [Nat.shiftLeft_eq, Nat.pow_add]
  have grow : 2 ^ (e - low).toNat ≤ 2 ^ (k - low).toNat := Nat.pow_le_pow_right (by decide) (by omega)
  exact Nat.mul_lt_mul_of_lt_of_le size grow (Nat.two_pow_pos _)

theorem add_scaled (left : Operand k u) (right : Operand k v) (least : -1074 ≤ k) :
    Scaled (k + 2) (u.add .binary64 v) := by
  cases u with
  | infinity | notANumber => exact left.elim
  | zero s =>
      cases v with
      | infinity | notANumber => exact right.elim
      | zero s' => cases s <;> cases s' <;> trivial
      | finite s' m' e' _ =>
          show e' ≤ k + 2
          have high : e' ≤ k := right.2
          omega
  | finite s m e _ =>
      cases v with
      | infinity | notANumber => exact right.elim
      | zero s' =>
          show e ≤ k + 2
          have high : e ≤ k := left.2
          omega
      | finite s' m' e' _ =>
          obtain ⟨size, high⟩ : m < 2 ^ 53 ∧ e ≤ k := left
          obtain ⟨size', high'⟩ : m' < 2 ^ 53 ∧ e' ≤ k := right
          have first := shifted_lt (min e e') size high
          have second := shifted_lt (min e e') size' high'
          have sum : (s.apply (m <<< (e - min e e').toNat : Nat) +
              s'.apply (m' <<< (e' - min e e').toNat : Nat)).natAbs <
              2 ^ (54 + (k - min e e').toNat) := by
            refine (Int.natAbs_add_le _ _).trans_lt ?_
            rw [natAbs_apply, natAbs_apply, Int.natAbs_natCast, Int.natAbs_natCast]
            rw [Nat.pow_add] at first second ⊢
            omega
          have rounded := normalize_scaled (e := min e e') (t := k + 54) .positive sum (by omega)
            (by omega) (by omega)
          rwa [show k + 54 - 52 = k + 2 by omega] at rounded

theorem sub_eq_add_neg (u v : UnpackedFloat) : u.sub .binary64 v = u.add .binary64 v.neg := by
  cases u with
  | notANumber => rfl
  | infinity s => cases v <;> rfl
  | zero s => cases v <;> rfl
  | finite s m e _ =>
      cases v with
      | notANumber | infinity | zero => rfl
      | finite s' m' e' _ =>
          have negated : ∀ n : Int, (-s').apply n = -s'.apply n := by
            intro n
            cases s'
            · exact (Int.neg_neg n).symm
            · rfl
          unfold UnpackedFloat.sub UnpackedFloat.neg UnpackedFloat.add
          simp only [negated, Int.sub_eq_add_neg]

theorem sub_scaled (left : Operand k u) (right : Operand k v) (least : -1074 ≤ k) :
    Scaled (k + 2) (u.sub .binary64 v) := by
  rw [sub_eq_add_neg]
  exact add_scaled left right.neg least

theorem mul_scaled (left : Operand j u) (right : Operand k v) (least : -1128 ≤ j + k) :
    Scaled (j + k + 54) (u.mul .binary64 v) := by
  cases u with
  | infinity | notANumber => exact left.elim
  | zero s =>
      cases v with
      | infinity | notANumber => exact right.elim
      | zero | finite => trivial
  | finite s m e _ =>
      cases v with
      | infinity | notANumber => exact right.elim
      | zero => trivial
      | finite s' m' e' _ =>
          obtain ⟨size, high⟩ : m < 2 ^ 53 ∧ e ≤ j := left
          obtain ⟨size', high'⟩ : m' < 2 ^ 53 ∧ e' ≤ k := right
          have product : m * m' < 2 ^ (53 + 53) := by
            rw [Nat.pow_add]
            exact Nat.mul_lt_mul'' size size'
          have rounded := roundWithAccuracy_scaled (e := e + e') (t := j + k + 106) (s * s') .exact
            product (by omega) (by omega) (by omega)
          rwa [show j + k + 106 - 52 = j + k + 54 by omega] at rounded

theorem quotient_lt {m m' s : Nat} (size : m < 2 ^ 53) (significant : 2 ^ 52 ≤ m') :
    (m <<< s) / m' < 2 ^ (s + 1) := by
  apply Nat.div_lt_of_lt_mul
  calc m <<< s = m * 2 ^ s := Nat.shiftLeft_eq m s
    _ < 2 ^ 53 * 2 ^ s := Nat.mul_lt_mul_of_pos_right size (Nat.two_pow_pos s)
    _ = 2 ^ 52 * 2 ^ (s + 1) := by rw [← Nat.pow_add, ← Nat.pow_add]; congr 1; omega
    _ ≤ m' * 2 ^ (s + 1) := Nat.mul_le_mul_right _ significant

theorem div_scaled {s' : Sign} {m' : Nat} {e' : Int} {positive : 0 < m'} (left : Operand k u)
    (significant : 2 ^ 52 ≤ m') (whole : -52 ≤ e') (least : -1074 ≤ k) :
    Scaled (k + 1) (u.div .binary64 (.finite s' m' e' positive)) := by
  cases u with
  | infinity | notANumber => exact left.elim
  | zero => trivial
  | finite s m e _ =>
      obtain ⟨size, high⟩ : m < 2 ^ 53 ∧ e ≤ k := left
      have precision : Format.mantissaBits .binary64 = 53 := rfl
      have lowest : Format.minExponent .binary64 = -1074 := rfl
      have digits : m.log2 < 53 := log2_lt size
      have digits' : 52 ≤ m'.log2 := (Nat.le_log2 (by omega)).2 significant
      have exponent : Format.targetExponent .binary64 (totalExponent m e - totalExponent m' e') ≤
          k + 1 := by
        unfold Format.targetExponent totalExponent
        omega
      unfold UnpackedFloat.div divCore
      dsimp only
      generalize Format.targetExponent .binary64 (totalExponent m e - totalExponent m' e') = target
        at exponent ⊢
      have quotient := quotient_lt (s := (e - e' - min (e - e') target).toNat) size significant
      have rounded := roundWithAccuracy_scaled (e := min (e - e') target) (t := k + 53) (s / s')
        (accuracyOfFraction (m <<< (e - e' - min (e - e') target).toNat % m') m') quotient
        (by omega) (by omega) (by omega)
      rwa [show k + 53 - 52 = k + 1 by omega] at rounded

end

/-! ## Exponent fields -/

section
variable {x y : Float} {n n' : Nat}

theorem exponentField_le_of_pack {u : UnpackedFloat} (packed : bits x = UnpackedFloat.pack .binary64 u)
    (scaled : Scaled (n - 1075) u) (small : n < 2047) : exponentField x ≤ n := by
  have field : exponentField x = (unpackExponent (UnpackedFloat.pack .binary64 u)).toNat := by
    rw [← packed, toNat_unpackExponent]
    rfl
  have bias : Format.binary64.exponentBias = 1023 := by decide
  rw [field]
  cases u with
  | infinity | notANumber => exact scaled.elim
  | zero sign =>
      rw [UnpackedFloat.pack, packedZero, unpackExponent_packComponents]
      exact Nat.zero_le n
  | finite sign m e positive =>
      have bound : e ≤ n - 1075 := scaled
      simp only [UnpackedFloat.pack, bias]
      rw [if_neg (by omega)]
      split
      · rw [unpackExponent_packComponents, BitVec.toNat_ofNat]
        exact (Nat.mod_le _ _).trans (by omega)
      · rw [unpackExponent_packComponents]
        exact Nat.zero_le n

theorem operand_unpack (field : exponentField x ≤ n) (positive : 0 < n) (small : n < 2047) :
    Operand (n - 1075) x.toModel.unpack := by
  rw [unpack_of_not_full (by omega)]
  split
  · trivial
  · refine ⟨significand_lt x, ?_⟩
    unfold shift
    omega

theorem exponentField_add_le (left : exponentField x ≤ n) (right : exponentField y ≤ n)
    (positive : 0 < n) (small : n < 2045) : exponentField (x + y) ≤ n + 2 := by
  apply exponentField_le_of_pack rfl _ (by omega)
  have sum := add_scaled (operand_unpack left positive (by omega))
    (operand_unpack right positive (by omega)) (by omega)
  rwa [show ((n + 2 : Nat) : Int) - 1075 = n - 1075 + 2 by omega]

theorem exponentField_sub_le (left : exponentField x ≤ n) (right : exponentField y ≤ n)
    (positive : 0 < n) (small : n < 2045) : exponentField (x - y) ≤ n + 2 := by
  apply exponentField_le_of_pack rfl _ (by omega)
  have difference := sub_scaled (operand_unpack left positive (by omega))
    (operand_unpack right positive (by omega)) (by omega)
  rwa [show ((n + 2 : Nat) : Int) - 1075 = n - 1075 + 2 by omega]

theorem exponentField_mul_le (left : exponentField x ≤ n) (right : exponentField y ≤ n')
    (positive : 0 < n) (small : n < 2047) (positive' : 0 < n') (small' : n' < 2047)
    (normal : 1022 ≤ n + n') (representable : n + n' < 3068) :
    exponentField (x * y) ≤ n + n' - 1021 := by
  apply exponentField_le_of_pack rfl _ (by omega)
  have product := mul_scaled (operand_unpack left positive small)
    (operand_unpack right positive' small') (by omega)
  rwa [show ((n + n' - 1021 : Nat) : Int) - 1075 = n - 1075 + (n' - 1075) + 54 by omega]

theorem exponentField_div_le (left : exponentField x ≤ n) (whole : 1023 ≤ exponentField y)
    (finite : exponentField y < 2047) (positive : 0 < n) (small : n < 2046) :
    exponentField (x / y) ≤ n + 1 := by
  have significant : 2 ^ 52 ≤ significand y := le_significand (by omega)
  have exponent : -52 ≤ (shift y : Int) - 1075 := by
    unfold shift
    omega
  have divisor := unpack_of_not_full (x := y) (by omega)
  rw [dif_neg (by omega)] at divisor
  apply exponentField_le_of_pack (u := x.toModel.unpack.div .binary64 y.toModel.unpack) rfl _ (by omega)
  rw [divisor, show ((n + 1 : Nat) : Int) - 1075 = n - 1075 + 1 by omega]
  exact div_scaled (operand_unpack left positive (by omega)) significant exponent (by omega)

theorem exponentField_ofNat_le {m l : Nat} (size : m < 2 ^ (l + 1)) (small : l ≤ 1022) :
    exponentField (ofNat m) ≤ l + 1024 := by
  by_cases zero : m = 0
  · rw [zero]
    have none : exponentField (ofNat 0) = 0 := by decide +kernel
    omega
  · have digits := log2_lt size
    have field := fields_ofNat zero (by omega)
    omega

theorem exponentField_ofInt_le {m : Int} {l : Nat} (size : m.natAbs < 2 ^ (l + 1)) (small : l ≤ 1022) :
    exponentField (ofInt m) ≤ l + 1024 := by
  by_cases negative : m < 0
  · have digits := log2_lt size
    have field := fields_ofInt_neg negative (by omega)
    omega
  · rw [ofInt, if_neg negative]
    exact exponentField_ofNat_le size small

theorem natAbs_nearest_le {x : Float} (fraction : shift x < 1075) : (nearest x).natAbs ≤ 2 ^ 53 := by
  have size : wholePart (2 * significand x) (shift x) ≤ significand x := by
    rw [wholePart, if_neg (by omega), Nat.shiftRight_eq_div_pow]
    apply Nat.div_le_of_le_mul
    exact Nat.mul_le_mul_right _ (Nat.le_self_pow (by omega) 2)
  have bound := significand_lt x
  unfold nearest
  dsimp only
  split
  · decide
  · split <;> omega

theorem exponentField_round_le (x : Float) : exponentField (round x) ≤ max (exponentField x) 1077 := by
  unfold round
  split
  · exact Nat.le_max_left _ _
  · rename_i whole
    have rounded := natAbs_nearest_le (Nat.lt_of_not_le whole)
    exact (exponentField_ofInt_le (l := 53) (by omega) (by decide)).trans (Nat.le_max_right _ _)

theorem le_natAbs_truncate {x : Float} (number : x.isNaN = false) (whole : 1075 ≤ shift x) :
    2 ^ 52 ≤ (truncate x).natAbs := by
  have size : 2 ^ 52 ≤ wholePart (significand x) (shift x) := by
    rw [wholePart, if_pos whole, Nat.shiftLeft_eq]
    exact (le_significand_of_whole whole).trans (Nat.le_mul_of_pos_right _ (Nat.two_pow_pos _))
  simp only [truncate, number, Bool.false_eq_true, if_false]
  split <;> omega

theorem exponentField_trunc_le {x : Float} (number : x.isNaN = false)
    (small : (truncate x).natAbs < 2 ^ 52) : exponentField (trunc x) ≤ 1076 := by
  unfold trunc
  split
  · rename_i whole
    exact absurd (le_natAbs_truncate number whole) (Nat.not_le.2 small)
  · exact exponentField_ofInt_le (l := 52) (by omega) (by decide)

theorem exponentField_tenPower : ∀ n < 29,
    1023 ≤ exponentField (tenPower n) ∧ exponentField (tenPower n) ≤ 1116 := by decide +kernel

end

end Binary64

/-! ## Rounding in decimal -/

namespace Decimal
open Binary64

theorem powerOfTen_lt {n : Nat} (small : n < 29) : powerOfTen n < 2 ^ 94 :=
  (Nat.pow_le_pow_right (by decide) (Nat.le_of_lt_succ small)).trans_lt (by decide : 10 ^ 28 < 2 ^ 94)

theorem powerOfTen_pos (n : Nat) : 0 < powerOfTen n := Nat.pow_pos (by decide)

theorem exponentField_unit {n : Nat} (small : n < 29) :
    1023 ≤ exponentField (ofNat (powerOfTen n)) ∧ exponentField (ofNat (powerOfTen n)) ≤ 1117 := by
  have digits := log2_lt (powerOfTen_lt small)
  have field := fields_ofNat (powerOfTen_pos n).ne' (by omega)
  omega

theorem Fixed.toFloat_isFinite {f : Fixed} (size : f.mantissa < 2 ^ 97) (small : f.scale < 29) :
    f.toFloat.isFinite = true := by
  -- The bounds follow the conversion: the whole part, the fraction, their sum, and the sum scaled,
  -- rounded and scaled back.
  have unit := exponentField_unit small
  have power := exponentField_tenPower f.scale small
  have whole := exponentField_ofNat_le (l := 96) ((Nat.div_le_self _ (powerOfTen f.scale)).trans_lt size)
    (by decide)
  have rest := exponentField_ofNat_le (l := 96) ((Nat.mod_le _ (powerOfTen f.scale)).trans_lt size)
    (by decide)
  have fraction := exponentField_div_le rest unit.1 (by omega) (by decide) (by decide)
  have sum := exponentField_add_le (n := 1121) (whole.trans (by decide)) fraction (by decide) (by decide)
  have scaled := exponentField_mul_le sum power.2 (by decide) (by decide) (by decide) (by decide)
    (by decide) (by decide)
  have rounded := (exponentField_round_le _).trans (max_le scaled (by decide))
  have result := exponentField_div_le rounded power.1 (by omega) (by decide) (by decide)
  have positive : ∀ size : Float, exponentField size ≤ 1219 →
      (if f.negative then -size else size).isFinite = true := by
    intro size bound
    have finite : size.isFinite = true := isFinite_iff.2 (by omega)
    split
    · rwa [isFinite_neg]
    · exact finite
  apply positive
  split
  · exact (exponentField_ofNat_le (l := 96) size (by decide)).trans (by decide)
  · dsimp only
    split
    · exact whole.trans (by decide)
    · exact result

theorem Fixed.ofFloat_bounds {x : Float} {f : Fixed} (h : ofFloat x = some f) :
    f.mantissa < 2 ^ 96 ∧ f.scale < 29 := by
  unfold ofFloat at h
  split at h
  · cases h
  · split at h
    · cases h
      exact ⟨Nat.two_pow_pos 96, Nat.succ_pos 28⟩
    · generalize shortest x = digits at h
      obtain ⟨d, g⟩ := digits
      obtain ⟨fits, same⟩ := Option.ite_none_right_eq_some.1 h
      cases same
      refine ⟨fits, ?_⟩
      split
      · exact Nat.succ_pos 28
      · split
        · have last : maxScale = 28 := rfl
          dsimp only
          omega
        · exact Nat.lt_succ_self 28

theorem divideHalfUp_le (n d : Nat) (positive : 0 < d) : divideHalfUp n d ≤ n + 1 := by
  unfold divideHalfUp
  apply Nat.div_le_of_le_mul
  nlinarith

theorem Fixed.roundTo_bounds {f : Fixed} (size : f.mantissa < 2 ^ 96) (small : f.scale < 29)
    (places : Nat) : (f.roundTo places).mantissa < 2 ^ 97 ∧ (f.roundTo places).scale < 29 := by
  unfold roundTo
  split
  · omega
  · have rounded := divideHalfUp_le f.mantissa _ (powerOfTen_pos (f.scale - places))
    dsimp only
    omega

theorem Fixed.roundLeft_bounds {f rounded : Fixed} {zeros : Nat} (h : f.roundLeft zeros = some rounded) :
    rounded.mantissa < 2 ^ 97 ∧ rounded.scale < 29 := by
  have bound : mantissaBound = 2 ^ 96 := rfl
  unfold roundLeft at h
  dsimp only at h
  split at h
  · cases h
    dsimp only
    omega
  · cases h

theorem roundScaled_isFinite {x : Float} (finite : x.isFinite = true) (digits : Float) :
    (roundScaled x digits).isFinite = true := by
  have checked : ∀ y : Float, (if y.isFinite then y else x).isFinite = true := by
    intro y
    split
    · assumption
    · exact finite
  unfold roundScaled
  split
  · exact finite
  · exact checked _

theorem roundHalfAway_isFinite {x : Float} (finite : x.isFinite = true) (digits : Float) :
    (roundHalfAway x digits).isFinite = true := by
  unfold roundHalfAway
  split
  · exact roundScaled_isFinite finite digits
  · rename_i f decimal
    obtain ⟨size, small⟩ := Fixed.ofFloat_bounds decimal
    split
    · obtain ⟨size', small'⟩ := f.roundTo_bounds size small (min maxScale (truncate digits).toNat)
      exact Fixed.toFloat_isFinite size' small'
    · split
      · decide +kernel
      · split
        · rename_i rounded left
          obtain ⟨size', small'⟩ := Fixed.roundLeft_bounds left
          exact Fixed.toFloat_isFinite size' small'
        · exact roundScaled_isFinite finite digits

end Decimal

end Spreadsheet
