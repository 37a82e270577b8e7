import Dimming.Logging.Format
import Dimming.Proofs.Fault
import Dimming.Proofs.Json.Plain
import Dimming.Proofs.Number.Grid

/-!
# Moments of records

The moment of a record is written if it lies in the years 1 to 9999, and only then. Close to either
end a floating-point number is so coarse that the microseconds of a moment are never rounded into a
second that it has not reached.
-/

set_option autoImplicit false

namespace Dimming

namespace DateTime

/-- The second in which the year 1 begins. -/
def firstSecond : Int := -62135596800

/-- The second behind the year 9999. -/
def endSecond : Int := 253402300800

theorem year_of_days_iff (days : Int) :
    (1 ≤ (ofDays days).1 ∧ (ofDays days).1 ≤ 9999) ↔ -719162 ≤ days ∧ days < 2932897 := by
  have era : Int.fdiv (days + 719468) 146097 = (days + 719468) / 146097 :=
    Int.fdiv_eq_ediv_of_nonneg _ (by decide)
  have dayOfEra : Int.fmod (days + 719468) 146097 = (days + 719468) % 146097 :=
    Int.fmod_eq_emod_of_nonneg _ (by decide)
  unfold ofDays
  dsimp only
  rw [era, dayOfEra]
  generalize known : ((days + 719468) % 146097).toNat = day
  have inside : day < 146097 := by omega
  have split : days + 719468 = 146097 * ((days + 719468) / 146097) + day := by omega
  generalize (days + 719468) / 146097 = era at split ⊢
  have first : (day - day / 1460 + day / 36524 - day / 146096) / 365 = 0 ↔ day < 365 := by omega
  have last : (day - day / 1460 + day / 36524 - day / 146096) / 365 = 399 ↔ 145731 ≤ day := by
    omega
  have few : (day - day / 1460 + day / 36524 - day / 146096) / 365 ≤ 399 := by omega
  generalize (day - day / 1460 + day / 36524 - day / 146096) / 365 = year at first last few ⊢
  -- Only in the first and the last year of an era it matters whether the month is behind February.
  rcases Nat.eq_zero_or_pos year with rfl | later
  · split <;> omega
  · by_cases final : year = 399
    · subst final
      split <;> omega
    · split <;> omega

theorem year_iff (seconds : Int) :
    (1 ≤ (ofSeconds seconds).year ∧ (ofSeconds seconds).year ≤ 9999) ↔
      firstSecond ≤ seconds ∧ seconds < endSecond := by
  have day : Int.fdiv seconds 86400 = seconds / 86400 :=
    Int.fdiv_eq_ediv_of_nonneg _ (by decide)
  refine (year_of_days_iff (Int.fdiv seconds 86400)).trans ?_
  unfold firstSecond endSecond
  omega

section Writing

open Text

variable (dateTime : DateTime)

theorem visible_two_digits (value : Nat) : (twoDigits value).IsVisible :=
  visible_pad_left (visible_of_nat (by decide) (by decide) value) 2

theorem visible_joined {year mark : Text} (yearSeen : year.IsVisible) (markSeen : mark.IsVisible) :
    (joined year mark dateTime).IsVisible := by
  have hyphen : (Text.ofString "-").IsVisible := by decide
  have colon : (Text.ofString ":").IsVisible := by decide
  have month := visible_two_digits dateTime.month
  have day := visible_two_digits dateTime.day
  have hour := visible_two_digits dateTime.hour
  have minute := visible_two_digits dateTime.minute
  have second := visible_two_digits dateTime.second
  unfold joined
  simp only [of_append]
  exact ⟨⟨⟨⟨⟨⟨⟨⟨⟨⟨yearSeen, hyphen⟩, month⟩, hyphen⟩, day⟩, markSeen⟩, hour⟩, colon⟩, minute⟩, colon⟩,
    second⟩

theorem visible_stamp (microseconds : Nat) : (dateTime.stampText microseconds).IsVisible := by
  have year := visible_pad_left (Json.visible_of_int dateTime.year) 4
  have zone : (Text.ofString "+00:00").IsVisible := by decide
  unfold stampText
  refine of_append.2 ⟨of_append.2 ⟨visible_joined dateTime year (by decide), ?_⟩, zone⟩
  split
  · exact of_nil
  · exact of_append.2 ⟨by decide, visible_pad_left (visible_of_nat (by decide) (by decide) _) 6⟩

end Writing

end DateTime

namespace Instant

open Double

/-- A fraction of a second in millionths, as units of which one is a millionth. -/
def millionths (fraction : Nat) : Nat := roundQuotient (fraction * 1000000) 1

theorem millionths_inside {fraction : Nat} (proper : fraction < unitsPerOne) :
    millionths fraction < unitsLimit := by
  have rounded := round_quotient_le (fraction * 1000000) 1
  have room := many_units_le
  rw [Nat.div_one] at rounded
  unfold millionths
  rw [Nat.pow_eq] at room
  omega

theorem signed_millionths (negative : Bool) (fraction : Nat) :
    signedUnits (decide (signedUnits negative fraction < 0)) (millionths fraction) =
      signedUnits negative (millionths fraction) := by
  rcases Nat.eq_zero_or_pos fraction with rfl | some
  · have none : millionths 0 = 0 := round_quotient_small (by decide)
    rw [none]
    cases negative <;> rfl
  · have sign : decide (signedUnits negative fraction < 0) = negative := by
      cases negative
      · exact decide_eq_false (by unfold signedUnits; simp)
      · exact decide_eq_true (by unfold signedUnits; simp [some])
    rw [sign]

/-- The fraction is multiplied and rounded once, and then rounded to a whole number. -/
theorem nearest_millionth {fraction : Nat} (fits : Fits fraction)
    (proper : fraction < unitsPerOne) (negative : Bool) :
    ∃ rounded,
      (ofSignedUnits (signedUnits negative fraction) * ofInt 1000000).nearest? = some rounded ∧
        signedUnits negative (millionths fraction) / unitsPerOne ≤ rounded ∧
        rounded ≤ signedUnits negative (millionths fraction) / unitsPerOne + 1 := by
  let factor : Magnitude := ⟨fraction, fits⟩
  let product : Magnitude := ⟨millionths fraction, millionths_inside proper,
    roundQuotient_mod_spacing _ _⟩
  have multiplied : roundQuotient (fraction * (1000000 * unitsPerOne)) unitsPerOne =
      product.units :=
    round_quotient_eq units_per_one_pos Nat.one_pos (by ac_rfl)
  have million : (1000000 : Nat) < 2 ^ 53 := by decide
  have written : ofSignedUnits (signedUnits negative fraction) = .finite _ factor :=
    of_signed_units (signedUnits negative fraction) (nat_abs_signed negative fraction)
  have exact : ofSignedUnits (signedUnits negative fraction) * ofInt 1000000 =
      .finite (decide (signedUnits negative fraction < 0)) product := calc
    _ = Double.finite _ factor * .finite false ⟨1000000 * unitsPerOne, fits_whole million⟩ :=
      congrArg₂ _ written (of_int_exact million)
    _ = ofQuotient (_ != false) (fraction * (1000000 * unitsPerOne)) unitsPerOne := rfl
    _ = .finite (_ != false) product := of_quotient_eq _ multiplied
    _ = .finite _ product := by rw [Bool.bne_false]
  obtain ⟨rounded, found, low, high⟩ :=
    nearest_of_finite (decide (signedUnits negative fraction < 0)) product
  rw [signed_millionths] at low high
  rw [exact]
  exact ⟨rounded, found, low, high⟩

/-- The whole part of a number, rounded towards nought, and the millionths of the rest make an
instant; where they are a full second or less than none, the second is the next or the one before. -/
theorem of_finite (negative : Bool) (magnitude : Magnitude) :
    ∃ rounded instant, Instant.ofDouble? (.finite negative magnitude) = some instant ∧
      signedUnits negative (millionths (magnitude.units % unitsPerOne)) / unitsPerOne ≤ rounded ∧
      rounded ≤ signedUnits negative (millionths (magnitude.units % unitsPerOne)) / unitsPerOne + 1 ∧
      instant.seconds = signedUnits negative (magnitude.units / unitsPerOne) +
        (if 1000000 ≤ rounded then 1 else if rounded < 0 then -1 else 0) := by
  obtain ⟨rounded, found, low, high⟩ := nearest_millionth (fits_fraction magnitude.fits)
    (Nat.mod_lt _ units_per_one_pos) negative
  have units : signedUnits? (.finite negative magnitude) =
      some (signedUnits negative magnitude.units) := rfl
  refine ⟨rounded, ?_⟩
  unfold Instant.ofDouble?
  rw [units]
  simp only [Option.bind_eq_bind, Option.bind_some, signed_tdiv, signed_rest, found]
  split
  next => exact ⟨_, rfl, low, high, rfl⟩
  next =>
    split
    next => exact ⟨_, rfl, low, high, Int.sub_eq_add_neg⟩
    next => exact ⟨_, rfl, low, high, (Int.add_zero _).symm⟩

/-- From 2 ^ 35 on every number lies on the grid of the 131072nd parts of one. -/
theorem coarse_grid {magnitude : Magnitude} (large : 2 ^ 35 * unitsPerOne ≤ magnitude.units) :
    ∃ exponent multiple, unitsPerOne = 131072 * 2 ^ exponent ∧
      magnitude.units = multiple * 2 ^ exponent := by
  obtain ⟨one, limit, known, -, unit, -⟩ := units_powers
  obtain ⟨bits, -, written⟩ := bits_of_fits magnitude.fits
  have positive := units_per_one_pos
  have places : one + 35 ≤ magnitude.units.log2 := by
    refine (Nat.le_log2 (by omega)).2 ?_
    rw [Nat.pow_add, Nat.mul_comm, ← unit]
    exact large
  refine ⟨one - 17, bits * 2 ^ (magnitude.units.log2 - 52 - (one - 17)), ?_, ?_⟩
  · have split : 2 ^ one = 2 ^ 17 * 2 ^ (one - 17) := by
      rw [← Nat.pow_add]
      congr 1
      omega
    exact unit.trans split
  · have split : magnitude.units.log2 - 52 =
        magnitude.units.log2 - 52 - (one - 17) + (one - 17) := by
      omega
    rw [Nat.mul_assoc, ← Nat.pow_add, ← split]
    exact written

theorem millionths_of_coarse {exponent multiple : Nat}
    (unit : unitsPerOne = 131072 * 2 ^ exponent) (proper : multiple < 131072) :
    millionths (multiple * 2 ^ exponent) = multiple * 1000000 * 2 ^ exponent := by
  have room := many_units_le
  have inside : multiple * 1000000 * 2 ^ exponent < unitsLimit := by
    have below : multiple * 1000000 * 2 ^ exponent < 131072 * 1000000 * 2 ^ exponent :=
      Nat.mul_lt_mul_of_pos_right (by omega) (Nat.two_pow_pos exponent)
    have reached : 131072 * 1000000 * 2 ^ exponent = 1000000 * unitsPerOne := by
      rw [unit, ← Nat.mul_assoc, Nat.mul_comm 131072]
    rw [Nat.pow_eq] at room
    omega
  unfold millionths
  rw [Nat.mul_right_comm]
  exact round_quotient_of_fits (fits_of_bits (by omega) inside)

theorem of_large {negative : Bool} {magnitude : Magnitude}
    (large : 2 ^ 35 * unitsPerOne ≤ magnitude.units) :
    ∃ instant, Instant.ofDouble? (.finite negative magnitude) = some instant ∧
      instant.seconds = signedUnits negative magnitude.units / unitsPerOne := by
  obtain ⟨exponent, multiple, unit, split⟩ := coarse_grid large
  obtain ⟨rounded, instant, found, low, high, seconds⟩ := of_finite negative magnitude
  have positive := Nat.two_pow_pos exponent
  have proper : multiple % 131072 < 131072 := Nat.mod_lt _ (by decide)
  rw [split, unit, Nat.mul_mod_mul_right, millionths_of_coarse unit proper,
    signed_div_scaled _ _ _ positive] at low high
  rw [split, unit, Nat.mul_div_mul_right _ _ positive] at seconds
  refine ⟨instant, found, ?_⟩
  rw [seconds, split, unit, signed_div_scaled _ _ _ positive]
  generalize micros : multiple % 131072 * 1000000 = count at low high
  cases negative
  · rw [signed_positive] at low high
    rw [signed_positive, signed_positive, if_neg (by omega), if_neg (by omega)]
    omega
  · rw [signed_negative] at low high
    rw [signed_negative, signed_negative, if_neg (by omega)]
    split <;> omega

open DateTime (firstSecond endSecond)

theorem of_finite_dated_iff (negative : Bool) (magnitude : Magnitude) :
    ∃ instant, Instant.ofDouble? (.finite negative magnitude) = some instant ∧
      ((firstSecond ≤ instant.seconds ∧ instant.seconds < endSecond) ↔
        firstSecond * unitsPerOne ≤ signedUnits negative magnitude.units ∧
          signedUnits negative magnitude.units < endSecond * unitsPerOne) := by
  have positive := units_per_one_pos
  rcases Nat.lt_or_ge magnitude.units (2 ^ 35 * unitsPerOne) with small | large
  · obtain ⟨rounded, instant, found, -, -, seconds⟩ := of_finite negative magnitude
    have whole : magnitude.units / unitsPerOne < 2 ^ 35 :=
      Nat.div_lt_of_lt_mul (Nat.mul_comm _ _ ▸ small)
    refine ⟨instant, found, iff_of_true ?_ ?_⟩
    · unfold firstSecond endSecond
      rw [seconds]
      generalize magnitude.units / unitsPerOne = second at whole ⊢
      cases negative
      · rw [signed_positive]
        split_ifs <;> omega
      · rw [signed_negative]
        split_ifs <;> omega
    · unfold firstSecond endSecond
      cases negative
      · rw [signed_positive]
        omega
      · rw [signed_negative]
        omega
  · obtain ⟨instant, found, seconds⟩ := of_large large
    have positive : (0 : Int) < unitsPerOne := mod_cast positive
    refine ⟨instant, found, ?_⟩
    rw [seconds, Int.le_ediv_iff_mul_le positive, Int.ediv_lt_iff_lt_mul positive]

end Instant

namespace LogRecord

open DateTime (firstSecond endSecond)

variable {record : LogRecord}

def IsDated (record : LogRecord) : Prop :=
  record.created.lt (.int firstSecond) = false ∧ record.created.lt (.int endSecond) = true

instance (record : LogRecord) : Decidable record.IsDated := inferInstanceAs (Decidable (_ ∧ _))

theorem reached_iff (instant : Instant) (fault : LogFault) :
    (∃ reached, (if isWithinReach instant.seconds then .ok instant else .error fault) =
        Except.ok reached ∧ firstSecond ≤ reached.seconds ∧ reached.seconds < endSecond) ↔
      firstSecond ≤ instant.seconds ∧ instant.seconds < endSecond := by
  have wide : Nat.pow 2 63 = 9223372036854775808 := by decide
  constructor
  · rintro ⟨reached, found, inside⟩
    split at found
    · cases found
      exact inside
    · cases found
  · intro inside
    refine ⟨instant, if_pos (decide_eq_true ?_), inside⟩
    unfold firstSecond endSecond at inside
    omega

theorem instant_iff :
    (∃ instant, record.instant = .ok instant ∧
      firstSecond ≤ instant.seconds ∧ instant.seconds < endSecond) ↔ record.IsDated := by
  unfold LogRecord.instant IsDated
  cases record.created with
  | int seconds =>
      refine (reached_iff ⟨seconds, 0⟩ .instantTooFar).trans ?_
      simp [Number.lt]
  | double number =>
      cases number with
      | nan => exact iff_of_false (by rintro ⟨instant, found, -⟩; cases found) (by simp [Number.lt])
      | infinity negative =>
          refine iff_of_false (by rintro ⟨instant, found, -⟩; cases found) ?_
          cases negative <;> simp [Number.lt]
      | finite negative magnitude =>
          obtain ⟨instant, found, dated⟩ := Instant.of_finite_dated_iff negative magnitude
          dsimp only
          rw [found]
          refine ((reached_iff instant .instantTooFar).trans dated).trans ?_
          simp [Number.lt, Double.signedUnits]

theorem stamp_of_timestamp {stamp : Text} (written : record.timestamp = .ok stamp) :
    ∃ instant, record.instant = .ok instant ∧
      (1 ≤ (DateTime.ofSeconds instant.seconds).year ∧
        (DateTime.ofSeconds instant.seconds).year ≤ 9999) ∧
      stamp = (DateTime.ofSeconds instant.seconds).stampText instant.microseconds := by
  obtain ⟨instant, found, written⟩ := bind_ok written
  obtain ⟨dateTime, read, written⟩ := bind_ok written
  unfold dateTimeOf at read
  dsimp only at read
  split at read
  · obtain rfl := Except.ok.inj read
    split at written
    next years => exact ⟨instant, found, years, (Except.ok.inj written).symm⟩
    next => cases written
  · cases read

theorem timestamp_iff : (∃ stamp, record.timestamp = .ok stamp) ↔ record.IsDated := by
  rw [← instant_iff]
  constructor
  · rintro ⟨stamp, written⟩
    obtain ⟨instant, found, years, -⟩ := stamp_of_timestamp written
    exact ⟨instant, found, (DateTime.year_iff instant.seconds).1 years⟩
  · rintro ⟨instant, found, inside⟩
    have years := (DateTime.year_iff instant.seconds).2 inside
    have read : dateTimeOf instant.seconds = .ok (DateTime.ofSeconds instant.seconds) :=
      if_pos (by omega)
    refine ⟨(DateTime.ofSeconds instant.seconds).stampText instant.microseconds, ?_⟩
    unfold timestamp
    rw [found, ok_bind, read, ok_bind, if_pos years]
    rfl

end LogRecord

end Dimming
