/-!
Binary floating-point numbers with 53 significant digits, held exactly. A finite number
is a sign and a whole number of units, a unit being the smallest positive number
2 ^ -1074; every operation works on whole numbers and rounds once, to the nearest
representable number and to the even neighbour on a tie. Signalling and payloads of
numbers that are no number are not represented.
-/

set_option autoImplicit false

namespace Dimming

namespace Double

@[irreducible]
def unitsPerOne : Nat := Nat.pow 2 1074

/-- The first number of units that is out of range. -/
@[irreducible]
def unitsLimit : Nat := Nat.pow 2 2098

/-- The distance between neighbouring representable numbers around a number of units. -/
def spacing (units : Nat) : Nat := Nat.pow 2 (units.log2 - 52)

/-- A representable number of units is in range and lies on the grid around it. -/
def Fits (units : Nat) : Prop := units < unitsLimit ∧ units % spacing units = 0

instance (units : Nat) : Decidable (Fits units) := inferInstanceAs (Decidable (_ ∧ _))

/-- The grid point nearest to a quotient of units, the even one if two are equally near. -/
def roundQuotient (numerator denominator : Nat) : Nat :=
  let whole := numerator / denominator
  let step := spacing whole
  let multiple := whole / step
  let excess := 2 * (numerator - multiple * step * denominator)
  if excess < step * denominator ∨ (excess = step * denominator ∧ multiple % 2 = 0) then
    multiple * step
  else (multiple + 1) * step

theorem spacing_pos (units : Nat) : 0 < spacing units := Nat.two_pow_pos _

theorem mod_spacing_multiple (units multiple : Nat)
    (lower : units / spacing units ≤ multiple) (upper : multiple ≤ units / spacing units + 1) :
    (multiple * spacing units) % spacing (multiple * spacing units) = 0 := by
  rcases Nat.lt_or_ge units (2 ^ 53) with small | large
  · have log : units.log2 - 52 = 0 := by
      rcases Nat.eq_zero_or_pos units with rfl | positive
      · simp
      · have := (Nat.log2_lt (by omega)).2 small
        omega
    have one : spacing units = 1 := by simp [spacing, log]
    rw [one, Nat.mul_one]
    rw [one, Nat.div_one] at lower upper
    rcases Nat.lt_or_ge multiple (2 ^ 53) with below | above
    · have : multiple.log2 - 52 = 0 := by
        rcases Nat.eq_zero_or_pos multiple with rfl | positive
        · simp
        · have := (Nat.log2_lt (by omega)).2 below
          omega
      simp [spacing, this, Nat.mod_one]
    · have : multiple = 2 ^ 53 := by omega
      have log : (2 ^ 53).log2 = 53 := Nat.log2_two_pow
      subst this
      refine Nat.mod_eq_zero_of_dvd (Nat.pow_dvd_pow 2 (n := 53) ?_)
      rw [log]
      decide
  · have positive : units ≠ 0 := by intro zero; simp [zero] at large
    have logLarge : 53 ≤ units.log2 := (Nat.le_log2 positive).2 large
    have selfLe : 2 ^ units.log2 ≤ units := Nat.log2_self_le positive
    have ltSucc : units < 2 ^ (units.log2 + 1) := Nat.lt_log2_self
    have split : 2 ^ units.log2 = 2 ^ 52 * spacing units := by
      rw [spacing, Nat.pow_eq, ← Nat.pow_add]; congr 1; omega
    have splitSucc : 2 ^ (units.log2 + 1) = 2 ^ 53 * spacing units := by
      rw [spacing, Nat.pow_eq, ← Nat.pow_add]; congr 1; omega
    have quotientLow : 2 ^ 52 ≤ units / spacing units :=
      (Nat.le_div_iff_mul_le (spacing_pos _)).2 (by omega)
    have quotientHigh : units / spacing units < 2 ^ 53 :=
      (Nat.div_lt_iff_lt_mul (spacing_pos _)).2 (by omega)
    have productLow : 2 ^ units.log2 ≤ multiple * spacing units := by
      rw [split]; exact Nat.mul_le_mul_right _ (by omega)
    have nonzero : multiple * spacing units ≠ 0 := by
      have := Nat.two_pow_pos units.log2
      omega
    rcases Nat.lt_or_ge multiple (2 ^ 53) with below | above
    · have productHigh : multiple * spacing units < 2 ^ (units.log2 + 1) := by
        rw [splitSucc]; exact Nat.mul_lt_mul_of_pos_right below (spacing_pos _)
      have log : (multiple * spacing units).log2 = units.log2 :=
        (Nat.log2_eq_iff nonzero).2 ⟨productLow, productHigh⟩
      have same : spacing (multiple * spacing units) = spacing units :=
        congrArg (fun exponent => 2 ^ (exponent - 52)) log
      rw [same]
      exact Nat.mul_mod_left _ _
    · have multipleEq : multiple = 2 ^ 53 := by omega
      have product : multiple * spacing units = 2 ^ (units.log2 + 1) := by
        rw [splitSucc, multipleEq]
      rw [product]
      simp only [spacing, Nat.log2_two_pow]
      exact Nat.mod_eq_zero_of_dvd (Nat.pow_dvd_pow 2 (by omega))

theorem roundQuotient_mod_spacing (numerator denominator : Nat) :
    roundQuotient numerator denominator % spacing (roundQuotient numerator denominator) = 0 := by
  unfold roundQuotient
  dsimp only
  split
  · exact mod_spacing_multiple _ _ (Nat.le_refl _) (Nat.le_succ _)
  · exact mod_spacing_multiple _ _ (Nat.le_succ _) (Nat.le_refl _)

end Double

structure Magnitude where
  units : Nat
  fits : Double.Fits units
deriving DecidableEq

inductive Double where
  | nan
  | infinity (negative : Bool)
  | finite (negative : Bool) (magnitude : Magnitude)
deriving DecidableEq

namespace Double

/-- Rounds a quotient of units; what is out of range becomes infinite. -/
def ofQuotient (negative : Bool) (numerator denominator : Nat) : Double :=
  if inside : roundQuotient numerator denominator < unitsLimit then
    .finite negative ⟨roundQuotient numerator denominator, inside, roundQuotient_mod_spacing _ _⟩
  else .infinity negative

def ofInt (value : Int) : Double :=
  ofQuotient (decide (value < 0)) (value.natAbs * unitsPerOne) 1

/-- The units of a finite number with its sign. -/
def signedUnits? : Double → Option Int
  | .finite negative magnitude =>
      some (if negative then -(magnitude.units : Int) else magnitude.units)
  | _ => none

theorem unitsLimit_pos : 0 < unitsLimit := by
  unfold unitsLimit
  generalize 2098 = places
  exact Nat.two_pow_pos places

theorem fits_zero : Fits 0 := ⟨unitsLimit_pos, Nat.zero_mod _⟩

def zero (negative : Bool) : Double := .finite negative ⟨0, fits_zero⟩

/-- A finite sum of signed units. An exact zero is positive. -/
def ofSignedUnits (units : Int) : Double := ofQuotient (decide (units < 0)) units.natAbs 1

def add : Double → Double → Double
  | .nan, _ => .nan
  | _, .nan => .nan
  | .infinity left, .infinity right => if left = right then .infinity left else .nan
  | .infinity left, .finite _ _ => .infinity left
  | .finite _ _, .infinity right => .infinity right
  | .finite leftNegative left, .finite rightNegative right =>
      if left.units = 0 ∧ right.units = 0 then zero (leftNegative && rightNegative)
      else
        let leftUnits : Int := if leftNegative then -(left.units : Int) else left.units
        let rightUnits : Int := if rightNegative then -(right.units : Int) else right.units
        ofSignedUnits (leftUnits + rightUnits)

def mul : Double → Double → Double
  | .nan, _ => .nan
  | _, .nan => .nan
  | .infinity left, .infinity right => .infinity (left != right)
  | .infinity left, .finite right magnitude =>
      if magnitude.units = 0 then .nan else .infinity (left != right)
  | .finite left magnitude, .infinity right =>
      if magnitude.units = 0 then .nan else .infinity (left != right)
  | .finite leftNegative left, .finite rightNegative right =>
      ofQuotient (leftNegative != rightNegative) (left.units * right.units) unitsPerOne

/-- The quotient by a positive whole number that is itself representable. -/
def divNat : Double → Nat → Double
  | .nan, _ => .nan
  | .infinity negative, _ => .infinity negative
  | .finite negative magnitude, divisor => ofQuotient negative magnitude.units divisor

instance : Add Double := ⟨add⟩

instance : Mul Double := ⟨mul⟩

/-- The order of numbers; nothing is below or above what is no number. The two zeros are
equal. -/
def lt : Double → Double → Bool
  | .nan, _ => false
  | _, .nan => false
  | .infinity left, .infinity right => left && !right
  | .infinity left, .finite _ _ => left
  | .finite _ _, .infinity right => !right
  | .finite leftNegative left, .finite rightNegative right =>
      decide ((if leftNegative then -(left.units : Int) else left.units) <
        (if rightNegative then -(right.units : Int) else right.units))

def between (low high : Int) : Double → Bool
  | .finite negative magnitude =>
      let units : Int := if negative then -(magnitude.units : Int) else magnitude.units
      decide (low * unitsPerOne ≤ units ∧ units ≤ high * unitsPerOne)
  | _ => false

def floor? (number : Double) : Option Int := number.signedUnits?.map (Int.fdiv · unitsPerOne)

def truncate? (number : Double) : Option Int := number.signedUnits?.map (Int.tdiv · unitsPerOne)

def toInt? (number : Double) : Option Int :=
  number.signedUnits?.bind fun units =>
    if units % unitsPerOne = 0 then some (units / unitsPerOne) else none

/-- The nearest whole number to a finite number, the even one on a tie. -/
def nearest? (number : Double) : Option Int :=
  number.signedUnits?.map fun units =>
    let below := Int.fdiv units unitsPerOne
    let excess := 2 * (units - below * unitsPerOne)
    if excess < unitsPerOne ∨ (excess = unitsPerOne ∧ below % 2 = 0) then below else below + 1

end Double

end Dimming
