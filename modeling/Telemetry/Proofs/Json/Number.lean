import Telemetry.Json.Decode
import Telemetry.Json.Literal
import Telemetry.Proofs.Binary64

/-!
Numbers that a literal can stand for.

An integer that is read lies within 64 bits, signed or not, and a double that is read is finite:
a literal beyond double precision stands for nothing, and division by powers of ten cannot leave
the finite values.
-/

set_option autoImplicit false

namespace Telemetry.Json

theorem powerOfTen_bounds : ∀ n < 309, 0 < n →
    1024 ≤ (powerOfTen n).exponentField ∧ (powerOfTen n).isFinite = true := by
  decide +kernel

theorem isFinite_divideByPower {x : Binary64} {n : Nat} (finite : x.isFinite = true)
    (positive : 0 < n) : (divideByPower x n).isFinite = true := by
  -- Each step divides by at least ten, which keeps what is finite finite.
  have divided : ∀ k, 0 < k → k ≤ 308 → ∀ x : Binary64, x.isFinite = true →
      (x.div (powerOfTen k)).isFinite = true := by
    intro k positive small x finite
    obtain ⟨large, bounded⟩ := powerOfTen_bounds k (by omega) positive
    exact Binary64.isFinite_div finite bounded large
  fun_induction divideByPower x n with
  | case1 x n small => exact divided n positive small x finite
  | case2 => exact finite
  | case3 x n large _ ih =>
    exact ih (divided 308 (by decide) (by decide) x finite) (by omega)

theorem isFinite_scaled? {significand : Nat} {exponent : Int} {x : Binary64}
    (small : significand < 2 ^ 64) (found : scaled? significand exponent = some x) :
    x.isFinite = true := by
  have start : (Binary64.ofNat significand).isFinite = true :=
    Binary64.isFinite_ofNat (by omega)
  unfold scaled? at found
  dsimp only at found
  split at found
  · cases found
    exact isFinite_divideByPower start (by omega)
  · split at found
    · cases found
      exact start
    · split at found
      · cases found
      · split at found
        · next finite =>
          cases found
          exact finite
        · cases found

theorem absorb_lt {significand : Nat} (small : significand < 2 ^ 64) (digits : List Nat) :
    (absorb significand digits).1 < 2 ^ 64 := by
  induction digits generalizing significand with
  | nil => exact small
  | cons digit rest ih =>
    unfold absorb
    split
    · next room => exact ih room
    · exact small

theorem isFinite_float? {literal : Literal} {x : Binary64} (found : literal.float? = some x) :
    x.isFinite = true := by
  unfold Literal.float? at found
  obtain ⟨y, scaled, rfl⟩ := Option.map_eq_some_iff.mp found
  have finite := isFinite_scaled? (absorb_lt (absorb_lt (by decide) _) _) scaled
  split
  · rw [Binary64.isFinite_neg]
    exact finite
  · exact finite

def Number.Fits : Number → Prop
  | .int n => -2 ^ 63 ≤ n ∧ n < 2 ^ 64
  | .float x => x.isFinite = true

theorem fits_number? {literal : Literal} {number : Number}
    (found : literal.number? = some number) : number.Fits := by
  have float : literal.float?.map Number.float = some number → number.Fits := by
    intro found
    obtain ⟨x, read, rfl⟩ := Option.map_eq_some_iff.mp found
    exact isFinite_float? read
  -- What is not an integer in range goes the way of doubles, in any of three places.
  unfold Literal.number? at found
  dsimp only at found
  split at found
  · split at found
    · cases found
      simp only [Number.Fits]
      omega
    · split at found
      · cases found
        simp only [Number.Fits]
        omega
      · exact float found
  · exact float found

theorem Value.isFinite_float? {number : Number} (fits : number.Fits) {x : Binary64}
    (found : Value.float? (.num number) = some x) : x.isFinite = true := by
  cases number with
  | int n =>
    cases found
    obtain ⟨low, high⟩ := fits
    exact Binary64.isFinite_ofInt (by omega)
  | float y =>
    cases found
    exact fits

end Telemetry.Json
