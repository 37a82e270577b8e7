import Dimming.Proofs.Number.Spelling

/-!
# The place of the first digit

The shortest decimal of a number reaches the powers of ten that the number reaches, and no other
unless it stands on it. So where its first digit stands is decided by the number itself, up to
powers of ten that the number only just misses; a ten-thousandth is missed by none.
-/

set_option autoImplicit false

namespace Dimming

namespace Double

/-- A value that reaches the same powers of ten as a number; it may stand on the next one. -/
structure NearPowers (exact value : Nat) : Prop where
  reaches : ∀ power, 10 ^ power ≤ exact → 10 ^ power ≤ value
  stays : ∀ power, exact < 10 ^ power → value ≤ 10 ^ power

section Neighbours

variable {units exact coefficient places : Nat}

theorem NearPowers.refl (exact : Nat) : NearPowers exact exact where
  reaches := fun _ => id
  stays := fun _ => Nat.le_of_lt

theorem on_grid_neighbour {scale : Nat} (found : onGrid? units exact scale = some coefficient) :
    coefficient = exact / scale ∨ coefficient = exact / scale + 1 := by
  unfold onGrid? at found
  dsimp only at found
  split at found
  next =>
    split at found
    · exact Or.inl (Option.some.inj found).symm
    · exact Or.inr (Option.some.inj found).symm
  next =>
    split at found
    next => exact Or.inl (Option.some.inj found).symm
    next =>
      split at found
      next => exact Or.inr (Option.some.inj found).symm
      next => cases found

/-- The neighbours on a grid do not jump over a power of ten, since it is on the grid itself or
below the first point. -/
theorem near_powers_of_neighbour (fine : 10 ^ places ≤ exact)
    (near : coefficient = exact / 10 ^ places ∨ coefficient = exact / 10 ^ places + 1) :
    NearPowers exact (coefficient * 10 ^ places) where
  reaches := by
    intro power reached
    have positive : 0 < 10 ^ places := Nat.pow_pos (by decide)
    have below : exact / 10 ^ places * 10 ^ places ≤ coefficient * 10 ^ places :=
      Nat.mul_le_mul_right _ (by omega)
    refine Nat.le_trans ?_ below
    rcases Nat.le_total power places with coarse | fine'
    · have some : 1 ≤ exact / 10 ^ places := Nat.div_pos fine positive
      calc 10 ^ power ≤ 10 ^ places := Nat.pow_le_pow_right (by decide) coarse
        _ = 1 * 10 ^ places := (Nat.one_mul _).symm
        _ ≤ exact / 10 ^ places * 10 ^ places := Nat.mul_le_mul_right _ some
    · obtain ⟨steps, rfl⟩ := Nat.exists_eq_add_of_le' fine'
      rw [Nat.pow_add] at reached ⊢
      exact Nat.mul_le_mul_right _ ((Nat.le_div_iff_mul_le positive).2 reached)
  stays := by
    intro power missed
    have positive : 0 < 10 ^ places := Nat.pow_pos (by decide)
    have finer : places ≤ power :=
      Nat.le_of_lt ((Nat.pow_lt_pow_iff_right (by decide)).1 (Nat.lt_of_le_of_lt fine missed))
    obtain ⟨steps, rfl⟩ := Nat.exists_eq_add_of_le' finer
    rw [Nat.pow_add] at missed ⊢
    have short : exact / 10 ^ places < 10 ^ steps := (Nat.div_lt_iff_lt_mul positive).2 missed
    exact Nat.mul_le_mul_right _ (by omega)

theorem on_grids_near_powers {search : Nat → Option Nat}
    (found : ∀ places coefficient, search places = some coefficient →
      coefficient = exact / 10 ^ places ∨ coefficient = exact / 10 ^ places + 1)
    (grids : Nat) {start : Nat} (fine : 10 ^ start ≤ exact) :
    ∃ places : Nat, (onGrids search exact grids start).exponent = places - 1074 ∧
      NearPowers exact ((onGrids search exact grids start).coefficient * 10 ^ places) := by
  induction grids generalizing start with
  | zero =>
      refine ⟨0, rfl, ?_⟩
      rw [Nat.pow_zero, Nat.mul_one]
      exact NearPowers.refl exact
  | succ grids ih =>
      rw [onGrids]
      cases sought : search start with
      | some coefficient =>
          exact ⟨start, rfl, near_powers_of_neighbour fine (found start coefficient sought)⟩
      | none =>
          have finer : 10 ^ (start - 1) ≤ 10 ^ start :=
            Nat.pow_le_pow_right (by decide) (Nat.sub_le start 1)
          exact ih (Nat.le_trans finer fine)

theorem shortest_near_powers {magnitude : Magnitude} (some : magnitude.units ≠ 0) :
    ∃ places : Nat, (shortest magnitude).exponent = places - 1074 ∧
      NearPowers (magnitude.units * decimalUnits)
        ((shortest magnitude).coefficient * 10 ^ places) := by
  rw [shortest_eq pow_five]
  refine on_grids_near_powers (fun _ _ => on_grid_neighbour) 17 ?_
  have nonzero : magnitude.units * decimalUnits ≠ 0 :=
    Nat.mul_ne_zero some (Nat.ne_of_gt decimal_units_pos)
  cases length : (Text.ofNat (magnitude.units * decimalUnits)).length with
  | zero =>
      have few := Text.lt_pow_places (magnitude.units * decimalUnits)
      rw [length, Nat.pow_zero] at few
      omega
  | succ others => exact Text.pow_le_of_places nonzero length

end Neighbours

end Double

theorem Decimal.first_place_lt_iff {decimal : Decimal} {places : Nat}
    (some : decimal.coefficient ≠ 0) (scale : decimal.exponent = places - 1074) (power : Nat) :
    decimal.firstPlace < power - 1074 ↔ decimal.coefficient * 10 ^ places < 10 ^ power := by
  unfold firstPlace
  rw [scale]
  constructor
  · intro behind
    exact scaled_lt_pow (by omega)
  · intro small
    refine Int.not_le.1 fun reached => ?_
    have large : 10 ^ power ≤ decimal.coefficient * 10 ^ places := pow_le_scaled some (by omega)
    omega

namespace Double

section Point

variable {magnitude : Magnitude}

theorem ten_thousandth_rounds_up :
    10 ^ 1070 ≤ roundQuotient (10 ^ 1070) decimalUnits * decimalUnits := by
  unfold decimalUnits
  decide +kernel

theorem ten_thousandth_le_iff {power : Nat} (known : power + 4 = 1074) (units : Nat) :
    10 ^ power ≤ units * decimalUnits ↔ unitsPerOne ≤ 10000 * units := by
  have whole : 10000 * 10 ^ power = unitsPerOne * decimalUnits := by
    rw [← ten_pow_units known, Nat.pow_add, Nat.mul_comm]
  rw [← Nat.mul_le_mul_left_iff (by decide : 0 < 10000), whole, ← Nat.mul_assoc]
  exact Nat.mul_le_mul_right_iff decimal_units_pos

theorem hundred_lt {power units : Nat} (known : power = 1074) (small : units ≤ 100 * unitsPerOne) :
    units * decimalUnits < 10 ^ (power + 3) := by
  have positive : 0 < 10 ^ power := Nat.pow_pos (by decide)
  have bound := Nat.mul_le_mul_right decimalUnits small
  rw [Nat.mul_assoc, ← ten_pow_units known] at bound
  rw [Nat.pow_add]
  omega

theorem first_place_near_iff (some : magnitude.units ≠ 0)
    (small : magnitude.units ≤ 100 * unitsPerOne) :
    ¬((shortest magnitude).firstPlace < -4 ∨ 16 ≤ (shortest magnitude).firstPlace) ↔
      unitsPerOne ≤ 10000 * magnitude.units := by
  obtain ⟨places, scale, near⟩ := shortest_near_powers some
  obtain ⟨places', scale', rounded⟩ := shortest_rounds magnitude
  obtain rfl : places = places' := by omega
  have nonzero := Decimal.coefficient_ne_zero some rounded
  have first := Decimal.first_place_lt_iff nonzero scale
  generalize (shortest magnitude).firstPlace = place at first ⊢
  generalize (shortest magnitude).coefficient * 10 ^ places = value at near rounded first
  -- Under names of their own the powers are not computed.
  obtain ⟨power, known⟩ : ∃ power, power = 1070 := ⟨1070, rfl⟩
  obtain ⟨one, whole⟩ : ∃ one, one = 1074 := ⟨1074, rfl⟩
  have missed : value < 10 ^ power ↔ magnitude.units * decimalUnits < 10 ^ power := by
    constructor
    · intro below
      exact Nat.lt_of_not_le fun reached => Nat.not_lt_of_le (near.reaches power reached) below
    · intro below
      refine Nat.lt_of_le_of_ne (near.stays power below) fun same => ?_
      have up := ten_thousandth_rounds_up
      rw [← known, ← same, rounded, same] at up
      exact Nat.not_lt_of_le up below
  have low : place < 16 := by
    have bound := near.stays (one + 3) (hundred_lt whole small)
    have below : value < 10 ^ (one + 16) :=
      Nat.lt_of_le_of_lt bound (Nat.pow_lt_pow_right (by decide) (by omega))
    have behind := (first (one + 16)).2 below
    omega
  have behind : place < -4 ↔ value < 10 ^ power := by
    rw [← first power]
    omega
  have fourth : power + 4 = 1074 := by omega
  rw [← ten_thousandth_le_iff fourth magnitude.units, behind, missed]
  omega

end Point

end Double

end Dimming
