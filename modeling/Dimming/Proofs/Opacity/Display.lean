import Dimming.Proofs.Number.Bound
import Dimming.Proofs.Number.Grid
import Dimming.Proofs.Number.Placement
import Dimming.Proofs.Opacity.Acceptance

/-!
# Opacities as they are shown

An opacity is shown as a text that converts back to it. The text is one that may be typed, unless
the opacity is so small that it takes an exponent to write it down.
-/

set_option autoImplicit false

namespace Dimming

open Text
open Json (signed)

namespace Number

/-- The value of a finite number in units. -/
def units? : Number → Option Int
  | .int value => some (value * Double.unitsPerOne)
  | .double value => value.signedUnits?

/-- Above nought and below a ten-thousandth. -/
def isTiny (number : Number) : Bool :=
  number.units?.any fun units : Int =>
    decide (0 < units ∧ 10000 * units < (Double.unitsPerOne : Int))

section Units

variable {number other : Number} {units low high : Int}

theorem is_tiny_iff (known : number.units? = some units) :
    number.isTiny = true ↔ 0 < units ∧ 10000 * units < Double.unitsPerOne := by
  unfold isTiny
  rw [known, Option.any_some, decide_eq_true_eq]

theorem between_iff (known : number.units? = some units) :
    number.between low high = true ↔
      low * Double.unitsPerOne ≤ units ∧ units ≤ high * Double.unitsPerOne := by
  have positive : (0 : Int) < Double.unitsPerOne := Int.ofNat_lt.2 Double.units_per_one_pos
  match number with
  | .int value =>
      obtain rfl := Option.some.inj known
      rw [Int.mul_le_mul_iff_of_pos_right positive, Int.mul_le_mul_iff_of_pos_right positive]
      exact decide_eq_true_iff
  | .double .nan => cases known
  | .double (.infinity _) => cases known
  | .double (.finite negative magnitude) =>
      obtain rfl := Option.some.inj known
      exact decide_eq_true_iff

theorem units_of_between (inside : number.between low high = true) :
    ∃ units, number.units? = some units := by
  match number with
  | .int value => exact ⟨_, rfl⟩
  | .double .nan => cases inside
  | .double (.infinity _) => cases inside
  | .double (.finite negative magnitude) => exact ⟨_, rfl⟩

theorem between_of_same_units (same : other.units? = number.units?)
    (inside : number.between low high = true) : other.between low high = true := by
  obtain ⟨units, known⟩ := units_of_between inside
  exact (between_iff (same.trans known)).2 ((between_iff known).1 inside)

end Units

end Number

namespace Double

theorem numeric_exponent (exponent : Int) :
    Numeric (exponentText exponent) := by
  have noughts : InBase 10 (List.replicate (2 - (numeral 10 exponent.natAbs).length) 0) :=
    in_base_noughts (by decide) _
  have known := in_base_append.2 ⟨noughts, numeral_in_base (by decide) exponent.natAbs⟩
  unfold exponentText
  rw [of_nat_eq, pad_left_spelled]
  refine List.forall_mem_cons.2 ⟨?_, (digits_spelled known).numeric⟩
  split <;> decide

end Double

namespace Spelling

variable (spelling : Spelling)

theorem text_eq :
    spelling.text =
      pointed (spelled spelling.whole) (spelled spelling.fraction) ++ spelling.exponentPart := by
  unfold Spelling.text fractionPart pointed
  rw [List.append_assoc, spelled, spelled, List.isEmpty_map]

theorem exponent_part_ended : Ended spelling.exponentPart := by
  unfold exponentPart
  cases spelling.exponent with
  | none => exact ⟨fun _ => nofun, fun _ => nofun⟩
  | some exponent =>
      constructor
      · rintro point ⟨⟩
        decide
      · rintro point ⟨⟩
        decide

theorem whole_ne_nil : spelled spelling.whole ≠ [] := by
  obtain ⟨digit, -, others, same⟩ := spelling.proper.first
  rw [same]
  exact List.cons_ne_nil _ _

theorem read :
    Decimal.read CodePoint.decimalValue? spelling.text = some (spelling.decimal, []) := by
  have pointed := Decimal.read_pointed spelling.whole_ne_nil (digits_spelled spelling.proper.known)
    (digits_spelled spelling.known) spelling.exponent_part_ended
  have exponent := spelling.read_exponent_part decimal_reads_digits
    (fun _ => nofun : Decimal.NoDigit _ []) (fun _ => nofun)
  rw [List.append_nil] at exponent
  rw [text_eq, pointed, exponent, values_spelled spelling.proper.known, values_spelled spelling.known]
  unfold decimal
  cases marked : spelling.exponent with
  | none =>
      have nothing : spelling.exponentPart = [] := by
        unfold exponentPart
        rw [marked]
      rw [nothing]
      rfl
  | some exponent => rfl

theorem numeric : Numeric spelling.text := by
  rw [text_eq]
  refine (numeric_pointed (digits_spelled spelling.proper.known)
    (digits_spelled spelling.known)).append ?_
  unfold exponentPart
  cases spelling.exponent with
  | none => exact fun _ absent => absurd absent List.not_mem_nil
  | some exponent => exact List.forall_mem_cons.2 ⟨by decide, Double.numeric_exponent exponent⟩

theorem begins :
    ∃ point others, point.isDecimalDigit = true ∧ spelling.text = point :: others := by
  obtain ⟨digit, below, others, same⟩ := spelling.proper.first
  have digits := digits_spelled spelling.proper.known
  rw [same] at digits
  unfold Spelling.text
  rw [same]
  exact ⟨_, _, digits _ List.mem_cons_self, rfl⟩

theorem plain_iff : (∃ plain : PlainNumber, spelling.text = plain.text) ↔ spelling.exponent = none := by
  constructor
  · rintro ⟨plain, same⟩
    cases marked : spelling.exponent with
    | none => rfl
    | some exponent =>
        refine absurd ?_ plain.no_exponent
        rw [← same]
        unfold Spelling.text exponentPart
        rw [marked]
        simp [ofString]
  · intro unmarked
    have nothing : spelling.exponentPart = [] := by
      unfold exponentPart
      rw [unmarked]
    refine ⟨⟨false, spelled spelling.whole, spelled spelling.fraction, spelling.whole_ne_nil,
      digits_spelled spelling.proper.known, digits_spelled spelling.known⟩, ?_⟩
    rw [text_eq, nothing, List.append_nil]
    rfl

end Spelling

namespace Spelling

variable (spelling : Spelling)

theorem bare {dropped : CodePoint → Bool}
    (blanks : ∀ {point : CodePoint}, dropped point = true → point.isBlank = true) :
    Bare dropped spelling.text := by
  refine spelling.numeric.bare ?_ blanks
  obtain ⟨point, others, -, same⟩ := spelling.begins
  rw [same]
  exact List.cons_ne_nil _ _

theorem read_sign : Decimal.readSign spelling.text = (false, spelling.text) := by
  obtain ⟨point, others, digit, same⟩ := spelling.begins
  rw [same]
  exact Decimal.read_sign_of_kind digit (by decide) (by decide)

theorem of_text : Double.ofText spelling.text = .ok (spelling.decimal.toDouble false) := by
  have trimmed : spelling.text.trimSpace = spelling.text :=
    trim_bare (spelling.bare CodePoint.blank_of_space)
  have signed : Decimal.readSign spelling.text.trimSpace = (false, spelling.text) := by
    rw [trimmed]
    exact spelling.read_sign
  have noLetter : ∀ point ∈ spelling.text.head?, point.NoLetter := by
    obtain ⟨point, others, digit, same⟩ := spelling.begins
    rw [same]
    rintro point ⟨⟩
    exact CodePoint.no_letter_of_digit digit
  have clean (point : CodePoint) (inside : point ∈ spelling.text) : point ≠ '_' :=
    CodePoint.ne_of_kind (spelling.numeric point inside) (by decide)
  have converted := Double.of_text_decimal signed noLetter clean
  rw [spelling.read] at converted
  unfold Double.ofText
  rw [converted]
  rfl

end Spelling

section Whole

variable {value : Nat}

theorem Decimal.to_double_whole (small : value < 2 ^ 53) :
    ((Decimal.mk value 0).toDouble false).signedUnits? =
      some ((value * Double.unitsPerOne : Nat) : Int) := by
  by_cases zero : value = 0
  · subst zero
    rw [Nat.zero_mul]
    rfl
  · have fits := Double.fits_whole small
    let magnitude : Magnitude := ⟨value * Double.unitsPerOne, fits⟩
    have some : magnitude.units ≠ 0 :=
      Nat.mul_ne_zero zero (Nat.ne_of_gt Double.units_per_one_pos)
    obtain ⟨places, known⟩ : ∃ places, places = 1074 := ⟨1074, rfl⟩
    have rounded : Double.roundQuotient (value * 10 ^ places) Double.decimalUnits =
        magnitude.units := by
      rw [Double.ten_pow_units known, ← Nat.mul_assoc]
      exact Double.exact_rounds fits
    have scale : (0 : Int) = places - 1074 := by omega
    have converted : (Decimal.mk value 0).toDouble false = .finite false magnitude :=
      Decimal.to_double_of_rounded some scale rounded false
    rw [converted]
    rfl

theorem whole_plain (value : Nat) :
    ∃ plain : PlainNumber, Text.ofNat value = plain.text ∧
      plain.toDouble = (Decimal.mk value 0).toDouble false := by
  have known := numeral_in_base (by decide : 1 < 10) value
  have given : spelled (numeral 10 value) ≠ [] := by
    simpa [spelled] using numeral_ne_nil 10 value
  have nothing : Digits [] := fun _ absent => absurd absent List.not_mem_nil
  refine ⟨⟨false, spelled (numeral 10 value), [], given, digits_spelled known, nothing⟩, ?_, ?_⟩
  · rw [of_nat_eq]
    exact (List.append_nil _).symm
  · unfold PlainNumber.toDouble PlainNumber.decimal Decimal.ofDigits
    dsimp only
    have noValues : values [] = [] := rfl
    rw [values_spelled known, noValues, List.append_nil, digits_to_nat_numeral]
    rfl

end Whole

namespace Opacity

theorem leading_number_of_spelling (spelling : Spelling) :
    leadingNumber? spelling.text = some (spelling.decimal.toDouble false) := by
  have whole : spelling.text.dropWhile CodePoint.isBlank = spelling.text := by
    have around := drop_while_around (spelling.bare id) [] []
    simpa using around
  have noName : (Text.ofString "Infinity").isPrefixOf spelling.text = false := by
    obtain ⟨point, others, digit, same⟩ := spelling.begins
    rw [same]
    exact no_name_of_digit digit _
  unfold leadingNumber?
  rw [whole, spelling.read_sign]
  dsimp only
  rw [noName, if_neg Bool.false_ne_true, spelling.read]
  rfl

theorem problem_of_spelling {spelling : Spelling}
    (inside : (spelling.decimal.toDouble false).between 0 100 = true) :
    problem? spelling.text = if spelling.exponent = none then none else some .notPlainNumber := by
  have bare : Bare CodePoint.isBlank spelling.text := spelling.bare id
  have trimmed : spelling.text.trimBlanks = spelling.text := trim_bare bare
  have form : isPlainNumber spelling.text = decide (spelling.exponent = none) := by
    rw [Bool.eq_iff_iff, is_plain_number_iff, spelling.plain_iff, decide_eq_true_eq]
  unfold problem?
  rw [leading_number_of_spelling, trimmed, form, List.isEmpty_eq_false_iff.2 bare.some]
  dsimp only [Option.any_some]
  rw [inside]
  simp

theorem display_cases {opacity : Number} (inside : opacity.between 0 100 = true) :
    (∃ value ≤ 100, display opacity = Text.ofNat value ∧
      opacity.units? = some ((value * Double.unitsPerOne : Nat) : Int)) ∨
    ∃ magnitude : Magnitude, magnitude.units ≠ 0 ∧
      magnitude.units ≤ 100 * Double.unitsPerOne ∧
      display opacity = Double.magnitudeText magnitude ∧
      opacity.units? = some (magnitude.units : Int) := by
  have wholes {whole : Int} (range : 0 ≤ whole ∧ whole ≤ 100) {units : Int}
      (same : units = whole * Double.unitsPerOne) :
      ∃ value ≤ 100, Text.ofInt whole = Text.ofNat value ∧
        some units = some ((value * Double.unitsPerOne : Nat) : Int) := by
    obtain ⟨value, rfl⟩ := Int.eq_ofNat_of_zero_le range.1
    exact ⟨value, by omega, rfl, by rw [same, Int.natCast_mul]⟩
  match opacity with
  | .int value =>
      have range : 0 ≤ value ∧ value ≤ 100 := by simpa [Number.between] using inside
      exact Or.inl (wholes range rfl)
  | .double .nan => cases inside
  | .double (.infinity _) => cases inside
  | .double (.finite negative magnitude) =>
      have positive : (0 : Int) < Double.unitsPerOne := Int.ofNat_lt.2 Double.units_per_one_pos
      let units : Int := if negative then -(magnitude.units : Int) else magnitude.units
      obtain ⟨low, high⟩ : 0 ≤ units ∧ units ≤ 100 * Double.unitsPerOne := by
        simpa only [Number.between, Double.between, decide_eq_true_eq, Int.zero_mul] using inside
      by_cases whole : units % Double.unitsPerOne = 0
      · have shown : Double.toInt? (.finite negative magnitude) =
            some (units / Double.unitsPerOne) := if_pos whole
        have range : 0 ≤ units / Double.unitsPerOne ∧ units / Double.unitsPerOne ≤ 100 :=
          ⟨Int.ediv_nonneg low (Int.le_of_lt positive), Int.ediv_le_of_le_mul positive high⟩
        unfold display
        dsimp only
        rw [shown]
        exact Or.inl (wholes range (Int.ediv_mul_cancel_of_emod_eq_zero whole).symm)
      · have shown : Double.toInt? (.finite negative magnitude) = none := if_neg whole
        have sign : negative = false := by
          cases negative with
          | false => rfl
          | true =>
              have nothing : units = 0 := by
                change -(magnitude.units : Int) = 0
                change 0 ≤ -(magnitude.units : Int) at low
                omega
              rw [nothing, Int.zero_emod] at whole
              exact absurd rfl whole
        subst sign
        change ¬(magnitude.units : Int) % Double.unitsPerOne = 0 at whole
        change (magnitude.units : Int) ≤ 100 * Double.unitsPerOne at high
        refine Or.inr ⟨magnitude, ?_, by omega, ?_, rfl⟩
        · intro nothing
          rw [nothing] at whole
          exact whole (Int.zero_emod _)
        · unfold display
          dsimp only
          rw [shown]
          unfold Double.toText
          exact if_neg Bool.false_ne_true

/-- A text that converts back to an opacity, and that may be typed unless the opacity is tiny. -/
structure Shows (text : Text) (opacity : Number) : Prop where
  converts : ∃ number, Double.ofText text = .ok number ∧ number.signedUnits? = opacity.units?
  answered : problem? text = if opacity.isTiny then some .notPlainNumber else none

section Shown

variable {opacity : Number} (inside : opacity.between 0 100 = true)

include inside

theorem whole_shows {value : Nat} (few : value ≤ 100)
    (units : opacity.units? = some ((value * Double.unitsPerOne : Nat) : Int)) :
    Shows (Text.ofNat value) opacity := by
  obtain ⟨plain, same, number⟩ := whole_plain value
  have exact : plain.toDouble.signedUnits? = _ :=
    number ▸ Decimal.to_double_whole (Nat.lt_of_le_of_lt few (by decide))
  have equal : (Number.double plain.toDouble).units? = opacity.units? := exact.trans units.symm
  have trimmed : plain.text.trimBlanks = plain.text :=
    trim_bare (plain.numeric.bare plain.text_ne_nil id)
  have accepted : problem? plain.text = none :=
    problem_none_iff.2 ⟨plain, trimmed, Number.between_of_same_units equal inside⟩
  have large : ¬opacity.isTiny = true := by
    rw [Number.is_tiny_iff units]
    rintro ⟨some, less⟩
    rcases Nat.eq_zero_or_pos value with rfl | whole
    · rw [Nat.zero_mul] at some
      exact Int.lt_irrefl 0 some
    · have reached := Nat.le_mul_of_pos_left Double.unitsPerOne whole
      omega
  rw [same]
  exact ⟨⟨plain.toDouble, of_text_plain plain, equal⟩, by rw [accepted, if_neg large]⟩

theorem written_shows {magnitude : Magnitude} (some : magnitude.units ≠ 0)
    (small : magnitude.units ≤ 100 * Double.unitsPerOne)
    (units : opacity.units? = Option.some (magnitude.units : Int)) :
    Shows (Double.magnitudeText magnitude) opacity := by
  obtain ⟨spelling, written, near, back⟩ := Double.positive_spelling some
  have number := back false
  have between : (spelling.decimal.toDouble false).between 0 100 = true := by
    have equal : (Number.double (.finite false magnitude)).units? = opacity.units? := units.symm
    rw [number]
    exact Number.between_of_same_units equal inside
  have tiny : opacity.isTiny = true ↔ spelling.exponent ≠ none := by
    rw [Number.is_tiny_iff units, Ne, near, Double.first_place_near_iff some small]
    omega
  rw [written]
  refine ⟨⟨_, spelling.of_text, by rw [number, units]; rfl⟩, ?_⟩
  rw [problem_of_spelling between]
  by_cases marked : spelling.exponent = none
  · rw [if_pos marked, if_neg (mt tiny.1 (not_not_intro marked))]
  · rw [if_neg marked, if_pos (tiny.2 marked)]

theorem display_shows : Shows (display opacity) opacity := by
  rcases display_cases inside with
    ⟨value, few, shown, units⟩ | ⟨magnitude, some, small, shown, units⟩
  · rw [shown]
    exact whole_shows inside few units
  · rw [shown]
    exact written_shows inside some small units

end Shown

end Opacity

end Dimming
