import Dimming.Proofs.Number.Bound
import Dimming.Proofs.Number.Rounding

/-!
# Points of the grid

A number of at most 53 binary digits is representable wherever it stands, and what is representable
has no more of them. So the fraction of a representable number is representable, and arithmetic that
stays within the digits is exact.
-/

set_option autoImplicit false

namespace Dimming

namespace Double

section Bits

variable {units bits exponent : Nat}

theorem units_powers : ∃ one limit, one = 1074 ∧ limit = 2098 ∧
    unitsPerOne = 2 ^ one ∧ unitsLimit = 2 ^ limit := by
  refine ⟨1074, 2098, rfl, rfl, ?_, ?_⟩
  · unfold unitsPerOne
    generalize 1074 = places
    exact Nat.pow_eq
  · unfold unitsLimit
    generalize 2098 = places
    exact Nat.pow_eq

theorem fits_of_bits (few : bits < 2 ^ 53) (inside : bits * 2 ^ exponent < unitsLimit) :
    Fits (bits * 2 ^ exponent) := by
  refine ⟨inside, Nat.mod_eq_zero_of_dvd ?_⟩
  have coarse : (bits * 2 ^ exponent).log2 - 52 ≤ exponent := by
    by_cases zero : bits * 2 ^ exponent = 0
    · rw [zero]
      simp
    · have below : bits * 2 ^ exponent < 2 ^ (53 + exponent) := by
        rw [Nat.pow_add]
        exact Nat.mul_lt_mul_of_pos_right few (Nat.two_pow_pos exponent)
      have places := (Nat.log2_lt zero).2 below
      omega
  exact Nat.dvd_trans (Nat.pow_dvd_pow 2 coarse) (Nat.dvd_mul_left _ _)

theorem bits_of_fits (fits : Fits units) :
    ∃ bits, bits < 2 ^ 53 ∧ units = bits * 2 ^ (units.log2 - 52) := by
  refine ⟨units / spacing units, ?_, (Nat.div_mul_cancel (Nat.dvd_of_mod_eq_zero fits.2)).symm⟩
  refine (Nat.div_lt_iff_lt_mul (spacing_pos units)).2 ?_
  have below : units < 2 ^ (units.log2 + 1) := Nat.lt_log2_self
  refine Nat.lt_of_lt_of_le below ?_
  rw [spacing, Nat.pow_eq, ← Nat.pow_add]
  exact Nat.pow_le_pow_right (by decide) (by omega)

theorem fits_whole {value : Nat} (small : value < 2 ^ 53) : Fits (value * unitsPerOne) := by
  obtain ⟨one, limit, oneKnown, limitKnown, unit, most⟩ := units_powers
  rw [unit]
  refine fits_of_bits small ?_
  calc value * 2 ^ one < 2 ^ 53 * 2 ^ one :=
        Nat.mul_lt_mul_of_pos_right small (Nat.two_pow_pos one)
    _ = 2 ^ (53 + one) := (Nat.pow_add 2 53 one).symm
    _ ≤ 2 ^ limit := Nat.pow_le_pow_right (by decide) (by omega)
    _ = unitsLimit := most.symm

theorem fits_fraction (fits : Fits units) : Fits (units % unitsPerOne) := by
  obtain ⟨one, limit, -, -, unit, -⟩ := units_powers
  obtain ⟨bits, few, same⟩ := bits_of_fits fits
  generalize units.log2 - 52 = exponent at same
  have inside : units % unitsPerOne < unitsLimit := Nat.lt_of_le_of_lt (Nat.mod_le _ _) fits.1
  rw [unit, same] at inside ⊢
  rcases Nat.le_total exponent one with fine | coarse
  · have split : 2 ^ one = 2 ^ (one - exponent) * 2 ^ exponent := by
      rw [← Nat.pow_add, Nat.sub_add_cancel fine]
    rw [split, Nat.mul_mod_mul_right] at inside ⊢
    exact fits_of_bits (Nat.lt_of_le_of_lt (Nat.mod_le _ _) few) inside
  · have whole : bits * 2 ^ exponent % 2 ^ one = 0 :=
      Nat.mod_eq_zero_of_dvd (Nat.dvd_trans (Nat.pow_dvd_pow 2 coarse) (Nat.dvd_mul_left _ _))
    rw [whole]
    exact fits_zero

end Bits

section Signed

def signedUnits (negative : Bool) (units : Nat) : Int :=
  if negative then -(units : Int) else units

variable {negative : Bool} {units : Nat}

theorem signed_positive (units : Nat) : signedUnits false units = units :=
  if_neg Bool.false_ne_true

theorem signed_negative (units : Nat) : signedUnits true units = -(units : Int) := if_pos rfl

theorem nat_abs_signed (negative : Bool) (units : Nat) :
    (signedUnits negative units).natAbs = units := by
  cases negative
  · exact Int.natAbs_natCast units
  · exact (Int.natAbs_neg _).trans (Int.natAbs_natCast units)

theorem signed_tdiv (negative : Bool) (units divisor : Nat) :
    (signedUnits negative units).tdiv divisor = signedUnits negative (units / divisor) := by
  cases negative
  · rfl
  · exact Int.neg_tdiv _ _

theorem signed_rest (negative : Bool) (units divisor : Nat) :
    signedUnits negative units - signedUnits negative (units / divisor) * divisor =
      signedUnits negative (units % divisor) := by
  have parts : ((units / divisor : Nat) : Int) * divisor + (units % divisor : Nat) = units :=
    mod_cast Nat.div_add_mod' units divisor
  cases negative
  · change (units : Int) - (units / divisor : Nat) * divisor = (units % divisor : Nat)
    omega
  · change -(units : Int) - -((units / divisor : Nat) : Int) * divisor = -((units % divisor : Nat) : Int)
    rw [Int.neg_mul]
    omega

theorem signed_div_scaled (negative : Bool) (units divisor : Nat) {scale : Nat}
    (some : 0 < scale) :
    signedUnits negative (units * scale) / ((divisor * scale : Nat) : Int) =
      signedUnits negative units / divisor := by
  have scaled : signedUnits negative (units * scale) = signedUnits negative units * scale := by
    cases negative
    · exact Int.natCast_mul units scale
    · exact (congrArg Neg.neg (Int.natCast_mul units scale)).trans (Int.neg_mul _ _).symm
  rw [scaled, Int.natCast_mul]
  exact Int.mul_ediv_mul_of_pos_left _ _ (mod_cast some)

theorem of_signed_units {magnitude : Magnitude} (value : Int)
    (same : value.natAbs = magnitude.units) :
    ofSignedUnits value = .finite (decide (value < 0)) magnitude := by
  refine of_quotient_eq _ ?_
  rw [same]
  exact round_quotient_of_fits magnitude.fits

theorem of_int_exact {value : Nat} (small : value < 2 ^ 53) :
    ofInt value = .finite false ⟨value * unitsPerOne, fits_whole small⟩ := by
  have positive : decide ((value : Int) < 0) = false := decide_eq_false (by omega)
  unfold ofInt
  rw [positive, Int.natAbs_natCast]
  exact of_quotient_eq _ (round_quotient_of_fits (fits_whole small))

theorem nearest_of_finite (negative : Bool) (magnitude : Magnitude) :
    ∃ whole, nearest? (.finite negative magnitude) = some whole ∧
      signedUnits negative magnitude.units / unitsPerOne ≤ whole ∧
        whole ≤ signedUnits negative magnitude.units / unitsPerOne + 1 := by
  have below : Int.fdiv (signedUnits negative magnitude.units) unitsPerOne =
      signedUnits negative magnitude.units / unitsPerOne :=
    Int.fdiv_eq_ediv_of_nonneg _ (Int.natCast_nonneg _)
  have shape : signedUnits? (.finite negative magnitude) =
      some (signedUnits negative magnitude.units) := rfl
  unfold nearest?
  rw [shape, Option.map_some, below]
  refine ⟨_, rfl, ?_⟩
  dsimp only
  split <;> omega

end Signed

end Double

end Dimming
