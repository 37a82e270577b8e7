import Dimming.Opacity

/-!
# Numbers that stay finite

Rounding at most doubles a quotient, so arithmetic on numbers of the size of a percentage
never leaves the range of floating-point numbers. The bounds are crude on purpose: they only
have to keep every intermediate result of the alpha channel finite.
-/

set_option autoImplicit false

namespace Dimming

namespace Double

/-- A finite number that is at most a whole number away from zero. -/
def Within (bound : Nat) (number : Double) : Prop :=
  ∃ negative magnitude,
    number = .finite negative magnitude ∧ magnitude.units ≤ bound * unitsPerOne

theorem units_per_one_pos : 0 < unitsPerOne := by
  unfold unitsPerOne
  generalize 1074 = places
  exact Nat.two_pow_pos places

theorem pow_mul_pow_le (few some many : Nat) (enough : few + some ≤ many) :
    Nat.pow 2 few * Nat.pow 2 some ≤ Nat.pow 2 many := by
  rw [Nat.pow_eq, Nat.pow_eq, ← Nat.pow_add]
  exact Nat.pow_le_pow_right (by decide) enough

theorem many_units_le : Nat.pow 2 21 * unitsPerOne ≤ unitsLimit := by
  have room : 21 + 1074 ≤ 2098 := by decide
  unfold unitsLimit unitsPerOne
  revert room
  generalize 1074 = some
  generalize 2098 = many
  exact pow_mul_pow_le 21 some many

theorem spacing_le (units : Nat) : spacing units ≤ units + 1 := by
  rcases Nat.eq_zero_or_pos units with rfl | positive
  · simp [spacing]
  · have smaller : spacing units ≤ 2 ^ units.log2 :=
      Nat.pow_le_pow_right (by decide) (Nat.sub_le _ _)
    have below : 2 ^ units.log2 ≤ units := Nat.log2_self_le (by omega)
    omega

theorem round_quotient_le (numerator denominator : Nat) :
    roundQuotient numerator denominator ≤ 2 * (numerator / denominator) + 1 := by
  have whole := Nat.div_mul_le_self (numerator / denominator)
    (spacing (numerator / denominator))
  have step := spacing_le (numerator / denominator)
  unfold roundQuotient
  dsimp only
  split
  · omega
  · rw [Nat.add_mul, Nat.one_mul]
    omega

/-- The quotient may be anything up to a million and is still in range once rounded. -/
theorem of_quotient_within (negative : Bool) (numerator denominator bound : Nat)
    (quotient : numerator / denominator ≤ bound * unitsPerOne) (small : bound < 1000000) :
    Within (2 * bound + 1) (ofQuotient negative numerator denominator) := by
  have positive := units_per_one_pos
  have rounded : roundQuotient numerator denominator ≤ (2 * bound + 1) * unitsPerOne := by
    have doubled := round_quotient_le numerator denominator
    rw [Nat.add_mul, Nat.mul_assoc]
    omega
  have inside : roundQuotient numerator denominator < unitsLimit := by
    have limit : (2 * bound + 1) * unitsPerOne < 2 ^ 21 * unitsPerOne :=
      Nat.mul_lt_mul_of_pos_right (by omega) positive
    exact Nat.lt_of_le_of_lt rounded (Nat.lt_of_lt_of_le limit many_units_le)
  refine ⟨negative, ⟨_, inside, roundQuotient_mod_spacing _ _⟩, ?_, rounded⟩
  rw [ofQuotient, dif_pos inside]

theorem div_nat_within {number : Double} {bound divisor : Nat}
    (within : Within (bound * divisor) number) (small : bound < 1000000) :
    Within (2 * bound + 1) (number.divNat divisor) := by
  obtain ⟨negative, magnitude, rfl, units⟩ := within
  have quotient : magnitude.units / divisor ≤ bound * unitsPerOne := by
    refine Nat.div_le_of_le_mul (Nat.le_trans units (Nat.le_of_eq ?_))
    rw [Nat.mul_comm bound divisor, Nat.mul_assoc]
  exact of_quotient_within negative magnitude.units divisor bound quotient small

theorem mul_within {left right : Double} {leftBound rightBound : Nat}
    (leftWithin : Within leftBound left) (rightWithin : Within rightBound right)
    (small : leftBound * rightBound < 1000000) :
    Within (2 * (leftBound * rightBound) + 1) (left * right) := by
  obtain ⟨leftNegative, leftSize, rfl, leftUnits⟩ := leftWithin
  obtain ⟨rightNegative, rightSize, rfl, rightUnits⟩ := rightWithin
  have quotient :
      leftSize.units * rightSize.units / unitsPerOne ≤ leftBound * rightBound * unitsPerOne := by
    refine Nat.div_le_of_le_mul (Nat.le_trans (Nat.mul_le_mul leftUnits rightUnits) ?_)
    apply Nat.le_of_eq
    ac_rfl
  exact of_quotient_within (leftNegative != rightNegative) _ _ _ quotient small

theorem add_within {left right : Double} {leftBound rightBound : Nat}
    (leftWithin : Within leftBound left) (rightWithin : Within rightBound right)
    (small : leftBound + rightBound < 1000000) :
    Within (2 * (leftBound + rightBound) + 1) (left + right) := by
  obtain ⟨leftNegative, leftSize, rfl, leftUnits⟩ := leftWithin
  obtain ⟨rightNegative, rightSize, rfl, rightUnits⟩ := rightWithin
  change Within _ (add _ _)
  unfold add
  dsimp only
  split
  · exact ⟨_, _, rfl, Nat.zero_le _⟩
  · refine of_quotient_within _ _ _ _ ?_ small
    rw [Nat.div_one, Nat.add_mul]
    cases leftNegative <;> cases rightNegative <;>
      simp only [if_true, if_false, Bool.false_eq_true] <;> omega

theorem of_int_within (value : Int) (small : value.natAbs < 1000000) :
    Within (2 * value.natAbs + 1) (ofInt value) := by
  have quotient : value.natAbs * unitsPerOne / 1 ≤ value.natAbs * unitsPerOne :=
    Nat.div_le_self _ _
  exact of_quotient_within _ _ _ _ quotient small

theorem floor_of_within {number : Double} {bound : Nat} (within : Within bound number) :
    ∃ whole, number.floor? = some whole := by
  obtain ⟨negative, magnitude, rfl, -⟩ := within
  exact ⟨_, rfl⟩

end Double

namespace Number

theorem in_range_of_within {number : Double} {bound : Nat} (fault : NumberFault)
    (within : Double.Within bound number) : inRange fault number = .ok number := by
  obtain ⟨negative, magnitude, rfl, -⟩ := within
  rfl

theorem div_nat_of_between {number : Number} (inside : number.between 0 100 = true) :
    ∃ fraction, number.divNat 100 = .ok fraction ∧ Double.Within 3 fraction := by
  cases number with
  | int value =>
      have range : 0 ≤ value ∧ value ≤ 100 := by simpa [between] using inside
      have quotient :
          value.natAbs * Double.unitsPerOne / 100 ≤ 1 * Double.unitsPerOne := by
        apply Nat.div_le_of_le_mul
        rw [Nat.one_mul]
        exact Nat.mul_le_mul_right _ (by omega)
      have within := Double.of_quotient_within (decide (value < 0)) _ _ 1 quotient (by decide)
      exact ⟨_, in_range_of_within _ within, within⟩
  | double value =>
      have within : Double.Within (1 * 100) value := by
        match value, inside with
        | .finite negative magnitude, inside =>
            simp only [between, Double.between, decide_eq_true_eq] at inside
            refine ⟨negative, magnitude, rfl, ?_⟩
            cases negative <;> simp only [if_true, if_false, Bool.false_eq_true] at inside <;>
              omega
      exact ⟨_, rfl, Double.div_nat_within within (by decide)⟩

end Number

namespace Opacity

theorem half_within : Double.Within 3 ((Decimal.mk 5 (-1)).toDouble false) := by
  have half : (Decimal.mk 5 (-1)).toDouble false =
      Double.ofQuotient false (5 * Double.unitsPerOne) 10 := by
    have places : ((Text.ofNat 5).length : Int) + -1 = 0 := by decide
    simp only [Decimal.toDouble, places]
    rfl
  have quotient : 5 * Double.unitsPerOne / 10 ≤ 1 * Double.unitsPerOne := by omega
  rw [half]
  exact Double.of_quotient_within false _ _ 1 quotient (by decide)

theorem alpha_of_between {opacity : Number} (inside : opacity.between 0 100 = true) :
    ∃ channel, alpha opacity = .ok channel := by
  obtain ⟨fraction, quotient, within⟩ := Number.div_nat_of_between inside
  have product := Double.mul_within within (Double.of_int_within 255 (by decide)) (by decide)
  have sum := Double.add_within product half_within (by decide)
  obtain ⟨whole, floor⟩ := Double.floor_of_within sum
  refine ⟨min whole.toNat 255, ?_⟩
  simp only [alpha, quotient, bind, Except.bind, Number.toWhole, floor]
  rfl

end Opacity

end Dimming
