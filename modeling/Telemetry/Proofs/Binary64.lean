import Telemetry.Binary64

/-!
Finite values in double precision.

Integers of up to 65 bits are finite, and so is the quotient of a finite value by one that is at
least two. Quotients are the ones that the logic gives for `Float`: the values are taken apart
into a sign, a significand and an exponent, divided, rounded, and put together again.
-/

set_option autoImplicit false

namespace Telemetry

namespace Binary64

open Float.Model (Format UnpackedFloat totalExponent)
open Float.Model.UnpackedFloat

theorem isFinite_iff (x : Binary64) : x.isFinite = true ↔ x.exponentField ≠ 2047 := by
  rw [isFinite, decide_eq_true_eq]

/-! Bits and the values they stand for -/

def exponentOf (bits : BitVec 64) : Nat := (@unpackExponent .binary64 bits).toNat

theorem exponentOf_bits (x : Binary64) : exponentOf x.bits.toBitVec = x.exponentField := by
  simp [exponentOf, unpackExponent, BitVec.extractLsb_toNat, Nat.shiftRight_eq_div_pow,
    exponentField]

theorem exponentOf_packComponents (sign : Sign) (exponent : BitVec 11) (mantissa : BitVec 52) :
    exponentOf (packComponents .binary64 sign exponent mantissa) = exponent.toNat :=
  congrArg BitVec.toNat unpackExponent_packComponents

/-- The values that an exponent field may go with. -/
inductive HasForm : Nat → UnpackedFloat → Prop where
  | infinity (sign : Sign) : HasForm 2047 (.infinity sign)
  | notANumber : HasForm 2047 .notANumber
  | zero (sign : Sign) : HasForm 0 (.zero sign)
  | subnormal (sign : Sign) {mantissa : Nat} (positive : 0 < mantissa) : mantissa.log2 < 52 →
      HasForm 0 (.finite sign mantissa (-1074) positive)
  | normal (sign : Sign) {field mantissa : Nat} (positive : 0 < mantissa) : 0 < field →
      field < 2047 → mantissa.log2 = 52 →
      HasForm field (.finite sign mantissa (field - 1075) positive)

theorem log2_append_one (mantissa : BitVec 52) : (1#1 ++ mantissa).toNat.log2 = 52 := by
  have small := mantissa.isLt
  have sum : (1#1 ++ mantissa).toNat = 2 ^ 52 + mantissa.toNat := by
    rw [BitVec.toNat_append, ← Nat.shiftLeft_add_eq_or_of_lt small]
    rfl
  rw [sum, Nat.log2_eq_iff (by omega)]
  omega

theorem hasForm_unpack (bits : BitVec 64) :
    HasForm (exponentOf bits) (unpack .binary64 bits) := by
  have small := (@unpackMantissa .binary64 bits).isLt
  have bound : exponentOf bits < 2048 := (@unpackExponent .binary64 bits).isLt
  unfold unpack
  dsimp only
  by_cases all : @unpackExponent .binary64 bits = -1#_
  · have field : exponentOf bits = 2047 := congrArg BitVec.toNat all
    rw [if_pos all, field]
    by_cases none : @unpackMantissa .binary64 bits = 0#_
    · rw [if_pos none]
      exact .infinity _
    · rw [if_neg none]
      exact .notANumber
  have high : exponentOf bits ≠ 2047 := fun same => all (BitVec.eq_of_toNat_eq same)
  rw [if_neg all]
  by_cases low : @unpackExponent .binary64 bits = 0#_
  · have field : exponentOf bits = 0 := congrArg BitVec.toNat low
    rw [if_pos low, field]
    by_cases none : @unpackMantissa .binary64 bits = 0#_
    · rw [dif_pos none]
      exact .zero _
    · have positive : (@unpackMantissa .binary64 bits).toNat ≠ 0 :=
        fun same => none (BitVec.eq_of_toNat_eq same)
      have exponent : ((@unpackExponent .binary64 bits).toNat : Int) -
          ((Format.exponentBias .binary64 : Nat) + (52 : Nat)) + 1 = -1074 := by
        rw [show (@unpackExponent .binary64 bits).toNat = 0 from field]
        rfl
      rw [dif_neg none, exponent]
      exact .subnormal _ _ ((Nat.log2_lt positive).mpr small)
  · have positive : exponentOf bits ≠ 0 := fun same => low (BitVec.eq_of_toNat_eq same)
    rw [if_neg low]
    exact .normal _ _ (Nat.pos_of_ne_zero positive) (by omega) (log2_append_one _)

theorem exponentOf_pack_finite (sign : Sign) {mantissa : Nat} (exponent : Int)
    (positive : 0 < mantissa) :
    exponentOf (pack .binary64 (.finite sign mantissa exponent positive)) =
      if 2047 ≤ (exponent + 1075).toNat then 2047
      else if mantissa.log2 = 52 then (exponent + 1075).toNat else 0 := by
  have biased : exponent + (Format.exponentBias .binary64 : Nat) + (52 : Nat) =
      exponent + 1075 := by
    rw [show Format.exponentBias .binary64 = 1023 from rfl]
    omega
  have full : ∀ n : Nat, 2 ^ 11 ≤ n + 1 ↔ 2047 ≤ n := by omega
  have bits : mantissa.log2 + 1 = Format.mantissaBits .binary64 ↔ mantissa.log2 = 52 := by
    rw [show Format.mantissaBits .binary64 = 53 from rfl]
    omega
  unfold pack
  simp only [biased, full, bits]
  split
  · exact exponentOf_packComponents _ _ _
  · next small =>
    split
    · refine (exponentOf_packComponents _ _ _).trans ?_
      rw [BitVec.toNat_ofNat, Nat.mod_eq_of_lt]
      exact Nat.lt_of_lt_of_le (Nat.lt_of_not_le small) (by decide)
    · exact exponentOf_packComponents _ _ _

theorem HasForm.exponentOf_pack {field : Nat} {value : UnpackedFloat}
    (form : HasForm field value) : exponentOf (pack .binary64 value) = field := by
  cases form with
  | infinity | notANumber | zero => exact exponentOf_packComponents _ _ _
  | subnormal sign positive small =>
    rw [exponentOf_pack_finite, if_neg (by decide), if_neg (Nat.ne_of_lt small)]
  | normal sign positive low high full =>
    rw [exponentOf_pack_finite, if_neg (by omega), if_pos full]
    omega

theorem hasForm_toFloat (x : Binary64) :
    HasForm x.exponentField x.toFloat.toModel.unpack := by
  -- A double is put together once before it takes part in anything.
  have form := hasForm_unpack x.bits.toBitVec
  have again := hasForm_unpack (pack .binary64 (unpack .binary64 x.bits.toBitVec))
  rw [form.exponentOf_pack, exponentOf_bits] at again
  exact again

/-! Rounding and quotients -/

theorem shift_mantissa (extended : ExtendedMantissa) (n : Nat) :
    (extended >>> n).mantissa = extended.mantissa / 2 ^ n := by
  induction n with
  | zero => exact (Nat.div_one _).symm
  | succ n ih =>
    show (extended >>> n).mantissa / 2 = _
    rw [ih, Nat.div_div_eq_div_mul, Nat.pow_succ]

theorem roundedMantissa_le (extended : ExtendedMantissa) :
    extended.roundedMantissa ≤ extended.mantissa + 1 := by
  obtain ⟨mantissa, round, sticky⟩ := extended
  cases round <;> cases sticky <;>
    simp only [ExtendedMantissa.roundedMantissa, ExtendedMantissa.accuracy,
      Accuracy.roundToNearestEven] <;> omega

theorem targetExponent_eq (total : Int) :
    Format.targetExponent .binary64 total = max (total - 53) (-1074) := rfl

/-- The exponent of a value that has been shifted to 53 bits. -/
def settled (mantissa : Nat) (exponent : Int) : Int :=
  max exponent (max (mantissa.log2 + exponent - 52) (-1074))

theorem shiftToTargetExponent_spec (mantissa : Nat) (exponent : Int) (accuracy : Accuracy) :
    let shifted := shiftToTargetExponent .binary64 mantissa exponent accuracy
    shifted.2 = settled mantissa exponent ∧ shifted.1.mantissa < 2 ^ 53 := by
  have kept : (ExtendedMantissa.ofMantissaAndAccuracy mantissa accuracy).mantissa = mantissa := by
    rcases accuracy with _ | (_ | _ | _) <;> rfl
  have bits : mantissa < 2 ^ (mantissa.log2 + 1) := Nat.lt_log2_self
  intro shifted
  simp only [shifted, shiftToTargetExponent, shiftToExponent, targetExponent_eq, totalExponent,
    settled]
  refine ⟨by omega, ?_⟩
  rw [shift_mantissa, kept]
  apply Nat.div_lt_of_lt_mul
  rw [← Nat.pow_add]
  exact Nat.lt_of_lt_of_le bits (Nat.pow_le_pow_right (by decide) (by omega))

def Bounded (limit : Int) : UnpackedFloat → Prop
  | .finite _ _ exponent _ => exponent ≤ limit
  | .zero _ => True
  | .infinity _ | .notANumber => False

theorem Bounded.mono {a b : Int} {value : UnpackedFloat} (bounded : Bounded a value)
    (le : a ≤ b) : Bounded b value := by
  cases value with
  | finite => exact Int.le_trans bounded le
  | zero => trivial
  | infinity | notANumber => exact bounded

theorem exponentOf_pack_ne {value : UnpackedFloat} (bounded : Bounded 971 value) :
    exponentOf (pack .binary64 value) ≠ 2047 := by
  cases value with
  | infinity | notANumber => exact bounded.elim
  | zero sign =>
    have field : exponentOf (pack .binary64 (.zero sign)) = 0 := exponentOf_packComponents _ _ _
    omega
  | finite sign mantissa exponent positive =>
    have small : exponent ≤ 971 := bounded
    rw [exponentOf_pack_finite]
    split
    · omega
    · split <;> omega

theorem bounded_roundWithAccuracy (sign : Sign) (mantissa : Nat) (exponent : Int)
    (accuracy : Accuracy) : Bounded (settled mantissa exponent + 1)
      (roundWithAccuracy .binary64 sign mantissa exponent accuracy) := by
  obtain ⟨first, small⟩ := shiftToTargetExponent_spec mantissa exponent accuracy
  unfold roundWithAccuracy
  generalize shiftToTargetExponent .binary64 mantissa exponent accuracy = shifted at first small ⊢
  obtain ⟨extended, between⟩ := shifted
  obtain ⟨second, -⟩ := shiftToTargetExponent_spec extended.roundedMantissa between .exact
  have rounded : extended.roundedMantissa ≤ 2 ^ 53 :=
    Nat.le_trans (roundedMantissa_le extended) small
  have bits : extended.roundedMantissa.log2 ≤ 53 := by
    rcases Nat.eq_zero_or_pos extended.roundedMantissa with zero | positive
    · rw [zero]
      decide
    · exact Nat.le_of_lt_succ ((Nat.log2_lt (Nat.ne_of_gt positive)).mpr (by omega))
  dsimp only at first ⊢
  generalize shiftToTargetExponent .binary64 extended.roundedMantissa between .exact = final
    at second ⊢
  by_cases zero : final.1.mantissa = 0
  · rw [dif_pos zero]
    trivial
  · rw [dif_neg zero]
    show final.2 ≤ settled mantissa exponent + 1
    rw [second, first]
    unfold settled
    omega

theorem log2_div_le {m n k : Nat} (positive : 0 < (m * 2 ^ k) / n) :
    ((m * 2 ^ k) / n).log2 + n.log2 ≤ m.log2 + k := by
  have divisor : n ≠ 0 := by
    rintro rfl
    simp at positive
  have product : ((m * 2 ^ k) / n) * n ≤ m * 2 ^ k := Nat.div_mul_le_self _ _
  have upper : m * 2 ^ k < 2 ^ (m.log2 + 1 + k) := by
    rw [Nat.pow_add]
    exact Nat.mul_lt_mul_of_pos_right Nat.lt_log2_self (Nat.two_pow_pos k)
  have lower : 2 ^ (((m * 2 ^ k) / n).log2 + n.log2) ≤ ((m * 2 ^ k) / n) * n := by
    rw [Nat.pow_add]
    exact Nat.mul_le_mul (Nat.log2_self_le (Nat.ne_of_gt positive)) (Nat.log2_self_le divisor)
  have less := (Nat.pow_lt_pow_iff_right (by decide : 1 < 2)).mp
    (Nat.lt_of_le_of_lt (Nat.le_trans lower product) upper)
  omega

theorem bounded_div {m n : Nat} {e f : Int} (first second : Sign) (dividend : 0 < m)
    (divisor : 0 < n) (high : m.log2 + e ≤ 1023) (low : 1 ≤ n.log2 + f) :
    Bounded 971 (UnpackedFloat.div .binary64 (.finite first m e dividend)
      (.finite second n f divisor)) := by
  -- The quotient is taken at an exponent that leaves it enough bits.
  let aim := min (e - f) (max (m.log2 + e - (n.log2 + f) - 53) (-1074))
  have target : min (e - f)
      (Format.targetExponent .binary64 (totalExponent m e - totalExponent n f)) = aim := by
    rw [targetExponent_eq, totalExponent, totalExponent]
    omega
  unfold UnpackedFloat.div divCore
  dsimp only
  rw [target, Nat.shiftLeft_eq]
  generalize shifted : (e - f - aim).toNat = k
  refine (bounded_roundWithAccuracy _ _ _ _).mono ?_
  unfold settled
  rcases Nat.eq_zero_or_pos (m * 2 ^ k / n) with zero | positive
  · rw [zero, show Nat.log2 0 = 0 from rfl]
    omega
  · have bits := log2_div_le positive
    omega

theorem isFinite_div {x y : Binary64} (finite : x.isFinite = true) (bounded : y.isFinite = true)
    (large : 1024 ≤ y.exponentField) : (x.div y).isFinite = true := by
  rw [isFinite_iff] at finite bounded ⊢
  have dividend := hasForm_toFloat x
  have divisor := hasForm_toFloat y
  rw [← exponentOf_bits]
  show exponentOf (pack .binary64 (UnpackedFloat.div .binary64 x.toFloat.toModel.unpack
    y.toFloat.toModel.unpack)) ≠ 2047
  apply exponentOf_pack_ne
  generalize x.toFloat.toModel.unpack = u at dividend ⊢
  generalize y.toFloat.toModel.unpack = v at divisor ⊢
  generalize x.exponentField = n at *
  generalize y.exponentField = k at *
  cases divisor with
  | infinity | notANumber => exact absurd rfl bounded
  | zero | subnormal => omega
  | normal sign positive low high full =>
    cases dividend with
    | infinity | notANumber => exact absurd rfl finite
    | zero => trivial
    | subnormal | normal => exact bounded_div _ _ _ _ (by omega) (by omega)

/-! Integers -/

theorem roundDiv_le (num den : Nat) : roundDiv num den ≤ num / den + 1 := by
  unfold roundDiv
  dsimp only
  split <;> omega

theorem graduated_bounds {n : Nat} (positive : n ≠ 0) :
    let pair := if 1074 ≤ n.log2 + 1022 then (n, 1 * 2 ^ (n.log2 + 1022 - 1074))
      else (n * 2 ^ (1074 - (n.log2 + 1022)), 1)
    2 ^ 52 ≤ pair.1 / pair.2 ∧ pair.1 / pair.2 < 2 ^ 53 := by
  have lower := Nat.log2_self_le positive
  have upper : n < 2 ^ (n.log2 + 1) := Nat.lt_log2_self
  intro pair
  simp only [pair]
  split
  · next large =>
    have low : 52 + (n.log2 + 1022 - 1074) = n.log2 := by omega
    have high : 53 + (n.log2 + 1022 - 1074) = n.log2 + 1 := by omega
    dsimp only
    rw [Nat.one_mul, Nat.le_div_iff_mul_le (Nat.two_pow_pos _),
      Nat.div_lt_iff_lt_mul (Nat.two_pow_pos _), ← Nat.pow_add, ← Nat.pow_add, low, high]
    exact ⟨lower, upper⟩
  · next small =>
    have low : n.log2 + (1074 - (n.log2 + 1022)) = 52 := by omega
    have high : n.log2 + 1 + (1074 - (n.log2 + 1022)) = 53 := by omega
    have least := Nat.mul_le_mul_right (2 ^ (1074 - (n.log2 + 1022))) lower
    have most := Nat.mul_lt_mul_of_pos_right upper (Nat.two_pow_pos (1074 - (n.log2 + 1022)))
    rw [← Nat.pow_add, low] at least
    rw [← Nat.pow_add, high] at most
    dsimp only
    rw [Nat.div_one]
    exact ⟨least, most⟩

/-- The bits of a number are an exponent for its length and a significand that may carry. -/
theorem ofNat_eq {n : Nat} (positive : n ≠ 0) : ∃ significand, significand ≤ 2 ^ 53 ∧
    ofNat n = if (n.log2 + 1022) * 2 ^ 52 + significand < infinity.bits.toNat then
      ⟨UInt64.ofNat ((n.log2 + 1022) * 2 ^ 52 + significand)⟩ else infinity := by
  obtain ⟨lower, upper⟩ := graduated_bounds positive
  have coarse : ((n.log2 : Int) - (Nat.log2 1 : Nat) - 52 + 1074).toNat = n.log2 + 1022 := by
    rw [show Nat.log2 1 = 0 from rfl]
    omega
  refine ⟨_, Nat.le_trans (roundDiv_le _ _) upper, ?_⟩
  unfold ofNat nearest
  dsimp only
  rw [if_neg positive, coarse, if_neg (Nat.not_lt_of_le lower)]

theorem exponentField_ofNat_le (n : Nat) : (ofNat n).exponentField ≤ n.log2 + 1024 := by
  by_cases zero : n = 0
  · rw [zero]
    exact Nat.zero_le _
  · obtain ⟨significand, small, same⟩ := ofNat_eq zero
    have top : infinity.bits.toNat = 0x7FF0000000000000 := rfl
    rw [same, top]
    generalize n.log2 = k
    split
    · simp only [exponentField, UInt64.toNat_ofNat']
      omega
    · show 2047 ≤ k + 1024
      omega

theorem isFinite_ofNat {n : Nat} (small : n < 2 ^ 65) : (ofNat n).isFinite = true := by
  have field := exponentField_ofNat_le n
  have bits : n.log2 < 65 := by
    rcases Nat.eq_zero_or_pos n with rfl | positive
    · decide
    · exact (Nat.log2_lt (Nat.ne_of_gt positive)).mpr small
  rw [isFinite_iff]
  omega

theorem isFinite_neg (x : Binary64) : x.neg.isFinite = x.isFinite := by
  have field : x.neg.exponentField = x.exponentField := by
    have flipped : x.neg.bits.toNat = x.bits.toNat ^^^ 2 ^ 63 := UInt64.toNat_xor _ _
    rw [exponentField, flipped, Nat.xor_div_two_pow, Nat.xor_mod_two_pow]
    exact Nat.xor_zero _
  rw [isFinite, isFinite, field]

theorem isFinite_ofInt {n : Int} (small : n.natAbs < 2 ^ 65) : (ofInt n).isFinite = true := by
  unfold ofInt
  split
  · rw [isFinite_neg]
    exact isFinite_ofNat small
  · exact isFinite_ofNat small

/-! The total order -/

def magnitude (x : Binary64) : Nat := x.bits.toNat % 2 ^ 63

theorem rank_eq (x : Binary64) :
    x.rank = if x.negative then -1 - (x.magnitude : Int) else x.magnitude := by
  have bound := x.bits.toNat_lt
  simp only [rank, negative, magnitude, decide_eq_true_eq]
  split <;> omega

theorem magnitude_eq (x : Binary64) :
    x.magnitude = x.exponentField * 2 ^ 52 + x.fractionField ∧ x.fractionField < 2 ^ 52 := by
  have bound := x.bits.toNat_lt
  simp only [magnitude, exponentField, fractionField]
  omega

/-- The values that are not finite come after the others by magnitude. -/
def beyond (x : Binary64) : Int := if x.isFinite then 1 else if x.isNaN then 3 else 2

def place (x : Binary64) : Int := if x.negative then -x.beyond else x.beyond

theorem beyond_mono {x y : Binary64} (less : x.beyond < y.beyond) : x.magnitude < y.magnitude := by
  obtain ⟨first, small⟩ := x.magnitude_eq
  obtain ⟨second, small'⟩ := y.magnitude_eq
  have field : ∀ z : Binary64, z.exponentField ≤ 2047 := by
    intro z
    unfold exponentField
    omega
  have bound := field x
  have bound' := field y
  -- What is not finite has the highest exponent; of such values an infinity has no fraction.
  simp only [beyond, isFinite, isNaN, decide_eq_true_eq] at less
  split at less <;> split at less <;> try split at less
  all_goals omega

/-- What goes up with the magnitude, taken with the sign, comes in the order of the values. -/
theorem rank_lt_of_signed {x y : Binary64} {a b : Int} (first : 0 ≤ a) (second : 0 ≤ b)
    (less : (if x.negative then -a else a) < if y.negative then -b else b)
    (up : a < b → x.magnitude < y.magnitude) (down : b < a → y.magnitude < x.magnitude) :
    x.rank < y.rank := by
  rw [rank_eq, rank_eq]
  by_cases low : x.negative <;> by_cases high : y.negative
  · rw [if_pos low, if_pos high] at less ⊢
    have larger := down (Int.neg_lt_neg_iff.mp less)
    omega
  · rw [if_pos low, if_neg high]
    omega
  · rw [if_neg low, if_pos high] at less
    omega
  · rw [if_neg low, if_neg high] at less ⊢
    exact_mod_cast up less

theorem beyond_nonneg (x : Binary64) : 0 ≤ x.beyond := by
  unfold beyond
  split
  · decide
  · split <;> decide

theorem rank_lt_of_place_lt {x y : Binary64} (less : x.place < y.place) : x.rank < y.rank :=
  rank_lt_of_signed x.beyond_nonneg y.beyond_nonneg less beyond_mono beyond_mono

/-- What the magnitude of a finite value counts: as many units of the last place there is. -/
def grade (x : Binary64) : Nat := x.significand * 2 ^ x.scale

theorem ratio_eq (x : Binary64) :
    x.ratio.1 * 2 ^ 1074 = x.grade * x.ratio.2 ∧ 0 < x.ratio.2 := by
  unfold ratio grade
  split
  · next large =>
    refine ⟨?_, Nat.one_pos⟩
    have powers : 2 ^ (x.scale - 1074 + 1074) = 2 ^ x.scale :=
      congrArg (2 ^ ·) (Nat.sub_add_cancel large)
    rw [Nat.mul_one, Nat.mul_assoc, ← powers, Nat.pow_add]
  · next small =>
    refine ⟨?_, Nat.two_pow_pos _⟩
    rw [Nat.mul_assoc, ← Nat.pow_add, Nat.add_sub_cancel' (Nat.le_of_not_le small)]

theorem grade_mono {x y : Binary64} (le : x.magnitude ≤ y.magnitude) : x.grade ≤ y.grade := by
  obtain ⟨first, small⟩ := x.magnitude_eq
  obtain ⟨second, small'⟩ := y.magnitude_eq
  have fields : x.exponentField < y.exponentField ∨
      x.exponentField = y.exponentField ∧ x.fractionField ≤ y.fractionField := by omega
  rcases fields with lower | ⟨same, fraction⟩
  · -- The next exponent counts in units twice as large, of which a normal value has at least half
    -- of the most there can be.
    have bound : x.significand ≤ 2 ^ 53 := by
      unfold significand
      split <;> omega
    have large : 2 ^ 52 ≤ y.significand := by
      rw [significand, if_neg (by omega)]
      exact Nat.le_add_right _ _
    by_cases zero : x.exponentField = 0
    · -- Values below all normal ones have the units of the least normal exponent.
      have least : x.grade ≤ 2 ^ 52 := by
        rw [grade, significand, scale, zero, if_pos rfl]
        omega
      exact Nat.le_trans least (Nat.le_trans large (Nat.le_mul_of_pos_right _ (Nat.two_pow_pos _)))
    · have higher : x.scale + 1 ≤ y.scale := by
        unfold scale
        omega
      calc x.grade ≤ 2 ^ 53 * 2 ^ x.scale := Nat.mul_le_mul_right _ bound
        _ = 2 ^ 52 * 2 ^ (x.scale + 1) := by rw [← Nat.pow_add, ← Nat.pow_add]; congr 1; omega
        _ ≤ 2 ^ 52 * 2 ^ y.scale := Nat.mul_le_mul_left _ (Nat.pow_le_pow_right Nat.two_pos higher)
        _ ≤ y.grade := Nat.mul_le_mul_right _ large
  · have scales : x.scale = y.scale := congrArg (· - 1) same
    rw [grade, grade, scales]
    refine Nat.mul_le_mul_right _ ?_
    rw [significand, significand, same]
    split <;> omega

def numerator (x : Binary64) : Int := if x.negative then -(x.ratio.1 : Int) else x.ratio.1

/-- One finite value is less than another. -/
def Below (x y : Binary64) : Prop := x.numerator * y.ratio.2 < y.numerator * x.ratio.2

theorem magnitude_lt {x y : Binary64} (less : x.ratio.1 * y.ratio.2 < y.ratio.1 * x.ratio.2) :
    x.magnitude < y.magnitude := by
  obtain ⟨first, positive⟩ := x.ratio_eq
  obtain ⟨second, positive'⟩ := y.ratio_eq
  -- Multiplied out to the least unit, a larger magnitude never counts fewer of them.
  refine Nat.lt_of_not_le fun le => ?_
  have grades := grade_mono le
  have turned : y.ratio.1 * x.ratio.2 * 2 ^ 1074 ≤ x.ratio.1 * y.ratio.2 * 2 ^ 1074 := by
    calc y.ratio.1 * x.ratio.2 * 2 ^ 1074
        = y.grade * (y.ratio.2 * x.ratio.2) := by rw [Nat.mul_right_comm, second, Nat.mul_assoc]
      _ ≤ x.grade * (y.ratio.2 * x.ratio.2) := Nat.mul_le_mul_right _ grades
      _ = x.ratio.1 * y.ratio.2 * 2 ^ 1074 := by
        rw [Nat.mul_right_comm, first, Nat.mul_assoc, Nat.mul_comm y.ratio.2]
  exact Nat.not_lt.mpr (Nat.le_of_mul_le_mul_right turned (Nat.two_pow_pos 1074)) less

theorem rank_lt_of_below {x y : Binary64} (less : x.Below y) : x.rank < y.rank := by
  rw [Below, numerator, numerator, apply_ite (· * (y.ratio.2 : Int)),
    apply_ite (· * (x.ratio.2 : Int)), Int.neg_mul, Int.neg_mul] at less
  refine rank_lt_of_signed ?_ ?_ less ?_ ?_
  · exact Int.mul_nonneg (Int.natCast_nonneg _) (Int.natCast_nonneg _)
  · exact Int.mul_nonneg (Int.natCast_nonneg _) (Int.natCast_nonneg _)
  · exact fun lower => magnitude_lt (by exact_mod_cast lower)
  · exact fun higher => magnitude_lt (by exact_mod_cast higher)

theorem rank_of_isZero {x : Binary64} (zero : x.isZero = true) :
    x.rank = if x.negative then -1 else 0 := by
  obtain ⟨field, fraction⟩ := of_decide_eq_true zero
  have none : x.magnitude = 0 := by rw [x.magnitude_eq.1, field, fraction]
  rw [rank_eq, none]
  rfl

/-- Ranks tell all values apart. Finite ones are in the order of what they stand for, a negative
zero before the other one; outside of them lie the infinities, and not-a-number beyond these. -/
theorem rank_order (x y : Binary64) :
    (x.rank = y.rank ↔ x = y) ∧ (x.place < y.place → x.rank < y.rank) ∧
      (x.Below y → x.rank < y.rank) ∧
      (x.isZero = true → y.isZero = true → x.negative = true → y.negative = false →
        x.rank < y.rank) := by
  refine ⟨⟨rank_injective, congrArg rank⟩, rank_lt_of_place_lt, rank_lt_of_below, ?_⟩
  intro first second low high
  rw [rank_of_isZero first, rank_of_isZero second, low, high]
  decide

end Binary64

end Telemetry
