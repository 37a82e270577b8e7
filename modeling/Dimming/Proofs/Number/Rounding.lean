import Dimming.Number.Decimal
import Dimming.Proofs.Text.Numeral

/-!
# Rounding of quotients

What a quotient is rounded to depends on its value alone, not on its terms. A decimal that rounds
to a positive number in range is therefore converted to it whatever its notation is: it is neither
so large nor so small that the conversion would cut it off. The shortest decimal is one of these.
-/

set_option autoImplicit false

namespace Dimming

namespace Double

variable {numerator denominator : Nat}

theorem round_quotient_scaled {factor : Nat} (some : 0 < factor) (numerator denominator : Nat) :
    roundQuotient (numerator * factor) (denominator * factor) =
      roundQuotient numerator denominator := by
  unfold roundQuotient
  dsimp only
  rw [Nat.mul_div_mul_right _ _ some]
  generalize spacing (numerator / denominator) = step
  generalize numerator / denominator / step = multiple
  have excess : 2 * (numerator * factor - multiple * step * (denominator * factor)) =
      2 * (numerator - multiple * step * denominator) * factor := by
    rw [← Nat.mul_assoc (multiple * step), ← Nat.sub_mul, ← Nat.mul_assoc]
  have scaled : step * (denominator * factor) = step * denominator * factor :=
    (Nat.mul_assoc _ _ _).symm
  simp only [excess, scaled, Nat.mul_lt_mul_right some, Nat.mul_right_cancel_iff some]

theorem round_quotient_eq {other divisor : Nat} (some : 0 < denominator) (also : 0 < divisor)
    (same : numerator * divisor = other * denominator) :
    roundQuotient numerator denominator = roundQuotient other divisor := by
  rw [← round_quotient_scaled also numerator denominator, same, Nat.mul_comm denominator,
    round_quotient_scaled some]

theorem round_quotient_of_fits {units : Nat} (fits : Fits units) : roundQuotient units 1 = units := by
  have whole : units / spacing units * spacing units = units :=
    Nat.div_mul_cancel (Nat.dvd_of_mod_eq_zero fits.2)
  unfold roundQuotient
  dsimp only
  rw [Nat.div_one, whole, Nat.mul_one, Nat.sub_self, Nat.mul_one, if_pos]
  exact Or.inl (spacing_pos units)

theorem round_quotient_small (small : 2 * numerator < denominator) :
    roundQuotient numerator denominator = 0 := by
  have nothing : numerator / denominator = 0 := Nat.div_eq_of_lt (by omega)
  have step : spacing 0 = 1 := by simp [spacing]
  unfold roundQuotient
  simp [nothing, step, small]

theorem pow_le_round_quotient (exponent : Nat) (some : 0 < denominator)
    (large : 2 ^ exponent * denominator ≤ numerator) :
    2 ^ exponent ≤ roundQuotient numerator denominator := by
  have reached : 2 ^ exponent ≤ numerator / denominator := (Nat.le_div_iff_mul_le some).2 large
  have below (whole : Nat) (reached : 2 ^ exponent ≤ whole) :
      2 ^ exponent ≤ whole / spacing whole * spacing whole := by
    have nonzero : whole ≠ 0 := by
      have positive := Nat.two_pow_pos exponent
      omega
    have leading : 2 ^ exponent ≤ 2 ^ whole.log2 :=
      Nat.pow_le_pow_right (by decide) ((Nat.le_log2 nonzero).2 reached)
    obtain ⟨steps, onGrid⟩ : spacing whole ∣ 2 ^ whole.log2 :=
      Nat.pow_dvd_pow 2 (Nat.sub_le whole.log2 52)
    have self := Nat.log2_self_le nonzero
    rw [onGrid, Nat.mul_comm] at leading self
    have within := (Nat.le_div_iff_mul_le (spacing_pos whole)).2 self
    exact Nat.le_trans leading (Nat.mul_le_mul_right _ within)
  have grid := below _ reached
  unfold roundQuotient
  dsimp only
  split
  · exact grid
  · rw [Nat.add_mul, Nat.one_mul]
    omega

theorem of_quotient_eq {magnitude : Magnitude} (negative : Bool)
    (rounded : roundQuotient numerator denominator = magnitude.units) :
    ofQuotient negative numerator denominator = .finite negative magnitude := by
  obtain ⟨units, fits⟩ := magnitude
  subst rounded
  exact dif_pos fits.1

/-- How many units of 10 ^ -1074 a binary unit has. -/
@[irreducible]
def decimalUnits : Nat := 5 ^ 1074

theorem decimal_units_pos : 0 < decimalUnits := by
  unfold decimalUnits
  generalize 1074 = places
  exact Nat.pow_pos (by decide)

theorem pow_five : Nat.pow 5 1074 = decimalUnits := by
  unfold decimalUnits
  generalize 1074 = places
  exact Nat.pow_eq

theorem reads_back_iff {units scaled : Nat} :
    readsBack units scaled = true ↔ roundQuotient scaled decimalUnits = units := by
  unfold readsBack
  rw [pow_five, beq_iff_eq]

theorem ten_pow_units {places : Nat} (known : places = 1074) :
    10 ^ places = unitsPerOne * decimalUnits := by
  unfold unitsPerOne decimalUnits
  rw [← known]
  exact Nat.mul_pow 2 5 places

theorem units_limit_le_round_quotient (some : 0 < denominator)
    (large : unitsLimit * denominator ≤ numerator) :
    unitsLimit ≤ roundQuotient numerator denominator := by
  unfold unitsLimit at large ⊢
  generalize 2098 = exponent at large ⊢
  exact pow_le_round_quotient exponent some large

end Double

namespace Decimal

open Double

variable {decimal : Decimal} {magnitude : Magnitude}

/-- What is written with more than 310 places in front of the point is out of range. -/
theorem out_of_range_bound : unitsLimit * decimalUnits ≤ 10 ^ 1384 := by
  unfold unitsLimit decimalUnits
  decide +kernel

/-- What begins behind the 330th place after the point is nearer to zero than to anything else. -/
theorem vanishing_bound : 2 * 10 ^ 743 ≤ decimalUnits := by
  unfold decimalUnits
  decide +kernel

section Conversion

variable {places : Nat}

theorem pow_le_scaled {digits : Nat} (some : decimal.coefficient ≠ 0)
    (many : digits < (Text.ofNat decimal.coefficient).length + places) :
    10 ^ digits ≤ decimal.coefficient * 10 ^ places := by
  cases same : (Text.ofNat decimal.coefficient).length with
  | zero =>
      have written := Text.length_of_nat decimal.coefficient
      rw [same] at written
      exact absurd (List.eq_nil_of_length_eq_zero written.symm) (Text.numeral_ne_nil _ _)
  | succ leading =>
      have reached : 10 ^ digits ≤ 10 ^ (leading + places) :=
        Nat.pow_le_pow_right (by decide) (by omega)
      rw [Nat.pow_add] at reached
      exact Nat.le_trans reached (Nat.mul_le_mul_right _ (Text.pow_le_of_places some same))

theorem scaled_lt_pow {digits : Nat}
    (few : (Text.ofNat decimal.coefficient).length + places ≤ digits) :
    decimal.coefficient * 10 ^ places < 10 ^ digits := by
  have bound := Nat.mul_lt_mul_of_pos_right (Text.lt_pow_places decimal.coefficient)
    (Nat.pow_pos (n := places) (by decide : 0 < 10))
  rw [← Nat.pow_add] at bound
  exact Nat.lt_of_lt_of_le bound (Nat.pow_le_pow_right (by decide) few)

variable (some : magnitude.units ≠ 0) (scale : decimal.exponent = places - 1074)
variable (rounded : roundQuotient (decimal.coefficient * 10 ^ places) decimalUnits = magnitude.units)

include some rounded

theorem coefficient_ne_zero : decimal.coefficient ≠ 0 := by
  intro zero
  rw [zero, Nat.zero_mul, round_quotient_small decimal_units_pos] at rounded
  exact some rounded.symm

include scale

theorem not_out_of_range :
    ¬310 < ((Text.ofNat decimal.coefficient).length : Int) + decimal.exponent := by
  intro above
  have large : 10 ^ 1384 ≤ decimal.coefficient * 10 ^ places :=
    pow_le_scaled (coefficient_ne_zero some rounded) (by omega)
  have reached := units_limit_le_round_quotient decimal_units_pos
    (Nat.le_trans out_of_range_bound large)
  rw [rounded] at reached
  exact Nat.not_lt_of_le reached magnitude.fits.1

theorem not_vanishing :
    ¬((Text.ofNat decimal.coefficient).length : Int) + decimal.exponent < -330 := by
  intro below
  have small : decimal.coefficient * 10 ^ places < 10 ^ 743 := scaled_lt_pow (by omega)
  have doubled : 2 * (decimal.coefficient * 10 ^ places) < decimalUnits :=
    Nat.lt_of_lt_of_le (Nat.mul_lt_mul_of_pos_left small (by decide)) vanishing_bound
  rw [round_quotient_small doubled] at rounded
  exact some rounded.symm

theorem to_double_of_rounded (negative : Bool) :
    decimal.toDouble negative = .finite negative magnitude := by
  have nonzero := coefficient_ne_zero some rounded
  have above := not_out_of_range some scale rounded
  have below := not_vanishing some scale rounded
  unfold toDouble
  dsimp only
  rw [if_neg nonzero, if_neg above, if_neg below]
  split
  next whole =>
    apply of_quotient_eq
    rw [← rounded]
    apply round_quotient_eq (by decide) decimal_units_pos
    obtain ⟨units, known, rfl⟩ : ∃ units, units = 1074 ∧ places = decimal.exponent.toNat + units :=
      ⟨_, rfl, by omega⟩
    rw [Nat.pow_eq, Nat.pow_add, ten_pow_units known]
    ac_rfl
  next fractional =>
    apply of_quotient_eq
    rw [← rounded]
    apply round_quotient_eq (Nat.pow_pos (by decide)) decimal_units_pos
    have split : 10 ^ places * 10 ^ (-decimal.exponent).toNat = unitsPerOne * decimalUnits := by
      rw [← Nat.pow_add]
      exact ten_pow_units (by omega)
    rw [Nat.mul_assoc decimal.coefficient (10 ^ places), split, Nat.mul_assoc]

end Conversion

end Decimal

namespace Double

section Shortest

variable {units exact : Nat}

theorem on_grid_rounds {scale coefficient : Nat}
    (found : onGrid? units exact scale = some coefficient) :
    roundQuotient (coefficient * scale) decimalUnits = units := by
  rw [← reads_back_iff]
  unfold onGrid? at found
  dsimp only at found
  split at found
  next both =>
    obtain ⟨lower, upper⟩ := Bool.and_eq_true_iff.1 both
    split at found
    · obtain rfl := Option.some.inj found
      exact lower
    · obtain rfl := Option.some.inj found
      exact upper
  next =>
    split at found
    next lower =>
      obtain rfl := Option.some.inj found
      exact lower
    next =>
      split at found
      next upper =>
        obtain rfl := Option.some.inj found
        exact upper
      next => cases found

theorem exact_rounds (fits : Fits units) :
    roundQuotient (units * decimalUnits) decimalUnits = units := by
  have scaled := round_quotient_scaled decimal_units_pos units 1
  rw [Nat.one_mul] at scaled
  rw [scaled, round_quotient_of_fits fits]

/-- On whatever grid the search stops, what it has found rounds to the number. -/
theorem on_grids_rounds {search : Nat → Option Nat}
    (found : ∀ places coefficient, search places = some coefficient →
      roundQuotient (coefficient * 10 ^ places) decimalUnits = units)
    (back : roundQuotient exact decimalUnits = units) (grids start : Nat) :
    ∃ places : Nat, (onGrids search exact grids start).exponent = places - 1074 ∧
      roundQuotient ((onGrids search exact grids start).coefficient * 10 ^ places)
        decimalUnits = units := by
  induction grids generalizing start with
  | zero =>
      refine ⟨0, rfl, ?_⟩
      rw [Nat.pow_zero, Nat.mul_one]
      exact back
  | succ grids ih =>
      rw [onGrids]
      cases sought : search start with
      | some coefficient => exact ⟨start, rfl, found start coefficient sought⟩
      | none => exact ih (start - 1)


-- Under its own name the power would be computed when the two sides are compared.
theorem shortest_eq {units : Nat} (same : Nat.pow 5 1074 = units) (magnitude : Magnitude) :
    shortest magnitude =
      onGrids (fun places => onGrid? magnitude.units (magnitude.units * units) (Nat.pow 10 places))
        (magnitude.units * units) 17 ((Text.ofNat (magnitude.units * units)).length - 1) := by
  subst same
  rfl

theorem shortest_rounds (magnitude : Magnitude) :
    ∃ places : Nat, (shortest magnitude).exponent = places - 1074 ∧
      roundQuotient ((shortest magnitude).coefficient * 10 ^ places) decimalUnits =
        magnitude.units := by
  rw [shortest_eq pow_five]
  exact on_grids_rounds (fun _ _ => on_grid_rounds) (exact_rounds magnitude.fits) 17 _

end Shortest

end Double

end Dimming
