import Dimming.Json.Reader
import Dimming.Json.Writer
import Dimming.Proofs.Number.Spelling

/-!
# Numbers read back

A number that was written is read back as it was, a whole number as a whole one and a
floating-point number as such, whatever stands behind it that cannot go on with a number.
-/

set_option autoImplicit false

namespace Dimming

namespace Json

open Text

def goesOn (point : CodePoint) : Bool :=
  point.isAsciiDigit || point = '.' || point = 'e' || point = 'E'

/-- What stands behind a value and does not go on with it. -/
def Delimited (rest : Text) : Prop := ∀ point ∈ rest.head?, goesOn point = false

section Parts

variable {rest : Text}

theorem no_digit_of_delimited (delimited : Delimited rest) :
    Decimal.NoDigit CodePoint.asciiDecimalValue? rest := by
  intro point first
  have stops := delimited point first
  unfold goesOn at stops
  simp only [Bool.or_eq_false_iff] at stops
  unfold CodePoint.asciiDecimalValue?
  rw [stops.1.1.1, if_neg Bool.false_ne_true]

theorem unmarked_of_delimited (delimited : Delimited rest) :
    (∀ point ∈ rest.head?, point ≠ 'e' ∧ point ≠ 'E') ∧
      ∀ point ∈ rest.head?, point ≠ CodePoint.ofChar '.' := by
  refine ⟨fun point first => ?_, fun point first => ?_⟩
  all_goals
    have stops := delimited point first
    unfold goesOn at stops
    simp only [Bool.or_eq_false_iff, decide_eq_false_iff_not] at stops
  · exact ⟨stops.1.2, stops.2⟩
  · exact stops.1.1.2

theorem read_whole_spelled {whole : List Nat} (proper : Whole whole)
    (stops : Decimal.NoDigit CodePoint.asciiDecimalValue? rest) :
    readWhole (spelled whole ++ rest) = (whole, rest) := by
  have read := Decimal.read_digits_spelled Decimal.ascii_reads_digits proper.known stops
  unfold readWhole
  rw [read]
  rcases proper.begins with rfl | ⟨digit, digits, leading, rfl⟩
  · rfl
  · cases digit with
    | zero => exact absurd rfl leading
    | succ digit => rfl

end Parts

def signed (negative : Bool) (text : Text) : Text := if negative then '-' :: text else text

section Numbers

variable {rest : Text} {whole : List Nat}

theorem read_minus_signed (proper : Whole whole) (negative : Bool) (text : Text) :
    readMinus (signed negative (spelled whole ++ text)) = (negative, spelled whole ++ text) := by
  cases negative with
  | true => rfl
  | false =>
      obtain ⟨digit, below, digits, rfl⟩ := proper.first
      have other : ∀ digit < 10, CodePoint.ofDigit digit ≠ '-' := by decide
      have none : after? "-" (spelled (digit :: digits) ++ text) = none := if_neg (other digit below)
      change readMinus (spelled (digit :: digits) ++ text) = _
      unfold readMinus
      rw [none]

theorem read_number_whole (proper : Whole whole) (negative : Bool) (delimited : Delimited rest)
    {limit : Option Nat} (fits : ∀ most ∈ limit, whole.length ≤ most) :
    readNumber limit (signed negative (spelled whole ++ rest)) =
      .ok (.int (if negative then -(digitsToNat 10 whole : Int) else digitsToNat 10 whole),
        rest) := by
  obtain ⟨unmarked, unpointed⟩ := unmarked_of_delimited delimited
  have read := read_whole_spelled proper (no_digit_of_delimited delimited)
  have fraction : readFraction rest = none := by
    cases rest with
    | nil => rfl
    | cons point rest => exact if_neg (unpointed point rfl)
  have exponent : Decimal.readExponent CodePoint.asciiDecimalValue? rest = none :=
    Decimal.read_exponent_none unmarked
  unfold readNumber
  rw [read_minus_signed proper]
  dsimp only
  rw [read]
  obtain ⟨digit, below, digits, rfl⟩ := proper.first
  dsimp only
  rw [fraction]
  dsimp only
  rw [exponent]
  dsimp only
  cases limit with
  | none => rfl
  | some most =>
      have short := fits most rfl
      dsimp only
      rw [if_neg (Nat.not_lt_of_le short)]

theorem read_fraction_part (spelling : Spelling) (delimited : Delimited rest) :
    readFraction (spelling.fractionPart ++ (spelling.exponentPart ++ rest)) =
      if spelling.fraction.isEmpty then none
      else some (spelling.fraction, spelling.exponentPart ++ rest) := by
  unfold Spelling.fractionPart
  split
  next whole =>
    rw [List.nil_append]
    unfold Spelling.exponentPart
    cases spelling.exponent with
    | none =>
        cases rest with
        | nil => rfl
        | cons point rest => exact if_neg ((unmarked_of_delimited delimited).2 point rfl)
    | some exponent => rfl
  next pointed =>
    have stops := spelling.no_digit_exponent_part (by decide) (no_digit_of_delimited delimited)
    have read := Decimal.read_digits_spelled Decimal.ascii_reads_digits spelling.known stops
    change readFraction ('.' :: (spelled spelling.fraction ++ _)) = _
    unfold readFraction
    dsimp only
    rw [if_pos rfl, read]
    revert pointed
    cases spelling.fraction with
    | nil => exact fun pointed => absurd rfl pointed
    | cons digit digits => exact fun _ => rfl

theorem read_number_spelling (limit : Option Nat) (spelling : Spelling) (negative : Bool)
    (delimited : Delimited rest) :
    readNumber limit (signed negative (spelling.text ++ rest)) =
      .ok (.double (spelling.decimal.toDouble negative), rest) := by
  have stops := no_digit_of_delimited delimited
  have wholeStops := spelling.no_digit_fraction_part (by decide)
    (spelling.no_digit_exponent_part (by decide) stops)
  have read := read_whole_spelled spelling.proper wholeStops
  have fraction := read_fraction_part spelling delimited
  have exponent := spelling.read_exponent_part Decimal.ascii_reads_digits stops
    (unmarked_of_delimited delimited).1
  unfold Spelling.text readNumber
  rw [List.append_assoc, List.append_assoc, read_minus_signed spelling.proper]
  dsimp only
  rw [read]
  obtain ⟨digit, -, digits, same⟩ := spelling.proper.first
  rw [same]
  dsimp only
  rw [fraction, ← same]
  unfold Spelling.decimal
  by_cases whole : spelling.fraction.isEmpty = true
  · have none : spelling.fraction = [] := List.isEmpty_iff.1 whole
    have nothing : spelling.fractionPart = [] := if_pos whole
    obtain ⟨power, marked⟩ :=
      Option.ne_none_iff_exists'.1 (spelling.marked.resolve_left (absurd none))
    rw [if_pos whole, nothing, List.nil_append]
    dsimp only
    rw [exponent, marked, none]
    rfl
  · rw [if_neg whole]
    dsimp only
    rw [exponent]
    cases marked : spelling.exponent with
    | some power => rfl
    | none =>
        have nothing : spelling.exponentPart = [] := by
          unfold Spelling.exponentPart
          rw [marked]
        rw [nothing]
        rfl

end Numbers

section Names

variable {opening text : Text} {point : CodePoint}

theorem after_of_head_ne (longer : opening ≠ []) (other : opening.head? ≠ some point) :
    after? opening (point :: text) = none := by
  cases opening with
  | nil => exact absurd rfl longer
  | cons expected opening => exact if_neg fun same => other (congrArg some same.symm)

theorem name_head_ne_digit :
    ∀ entry ∈ names, ∀ digit < 10, entry.1 ≠ [] ∧ entry.1.head? ≠ some (CodePoint.ofDigit digit) := by
  decide

theorem name_tail_ne_digit :
    ∀ entry ∈ names, entry.1.head? = some (CodePoint.ofChar '-') → ∀ digit < 10,
      entry.1.tail ≠ [] ∧ entry.1.tail.head? ≠ some (CodePoint.ofDigit digit) := by
  decide

theorem read_name_signed {whole : List Nat} (proper : Whole whole) (negative : Bool) (text : Text) :
    readName (signed negative (spelled whole ++ text)) = none := by
  obtain ⟨digit, below, digits, rfl⟩ := proper.first
  apply List.findSome?_eq_none_iff.2
  intro entry named
  obtain ⟨longer, other⟩ := name_head_ne_digit entry named digit below
  rw [Option.map_eq_none_iff]
  cases negative with
  | false => exact after_of_head_ne longer other
  | true =>
      by_cases minus : entry.1.head? = some (CodePoint.ofChar '-')
      · obtain ⟨more, apart⟩ := name_tail_ne_digit entry named minus digit below
        obtain ⟨opening, same⟩ : ∃ opening, entry.1 = CodePoint.ofChar '-' :: opening :=
          List.head?_eq_some_iff.1 minus
        rw [same] at more apart ⊢
        change after? (_ :: _) (CodePoint.ofChar '-' :: (spelled (digit :: digits) ++ text)) = none
        rw [after?, if_pos rfl]
        exact after_of_head_ne more apart
      · exact after_of_head_ne longer minus

end Names

section Written

variable {rest : Text}

theorem of_int_eq (value : Int) :
    Text.ofInt value = signed (decide (value < 0)) (spelled (numeral 10 value.natAbs)) := by
  cases value with
  | ofNat value => exact of_nat_eq value
  | negSucc value =>
      rw [decide_eq_true (Int.negSucc_lt_zero value)]
      exact congrArg (CodePoint.ofChar '-' :: ·) (of_nat_eq (value + 1))

theorem signed_append (negative : Bool) (text rest : Text) :
    signed negative text ++ rest = signed negative (text ++ rest) := by
  cases negative <;> rfl

theorem read_value_signed {whole : List Nat} (proper : Whole whole) {negative : Bool} {text : Text}
    {limit : Option Nat} {number : Number}
    (read : readNumber limit (signed negative (spelled whole ++ text)) = .ok (number, rest))
    (fuel : Nat) :
    readValue limit (fuel + 1) (signed negative (spelled whole ++ text)) =
      .ok (.number number, rest) := by
  have unnamed := read_name_signed proper negative text
  obtain ⟨digit, below, digits, rfl⟩ := proper.first
  have isPlain : ∀ digit < 10, CodePoint.ofDigit digit ≠ '"' ∧ CodePoint.ofDigit digit ≠ '[' ∧
      CodePoint.ofDigit digit ≠ '\x7b' := by
    decide
  have step {point : CodePoint} {behind : Text}
      (plain : point ≠ '"' ∧ point ≠ '[' ∧ point ≠ '\x7b')
      (unnamed : readName (point :: behind) = none)
      (read : readNumber limit (point :: behind) = .ok (number, rest)) :
      readValue limit (fuel + 1) (point :: behind) = .ok (.number number, rest) := by
    rw [readValue, if_neg plain.1, if_neg plain.2.1, if_neg plain.2.2, unnamed]
    dsimp only
    rw [read]
    rfl
  cases negative with
  | true => exact step (by decide) unnamed read
  | false => exact step (isPlain digit below) unnamed read

theorem write_finite_eq (negative : Bool) (magnitude : Magnitude) :
    writeNumber (.double (.finite negative magnitude)) =
      signed negative (Double.magnitudeText magnitude) := by
  unfold writeNumber writeDouble Double.toText signed
  dsimp only

theorem write_number_begins (number : Number) :
    ∃ point rest, writeNumber number = point :: rest ∧
      (point.isAsciiDigit = true ∨ point.isAsciiUpper = true ∨ point = '-') := by
  have ofSigned {whole : List Nat} (proper : Whole whole) (negative : Bool) (text : Text) :
      ∃ point rest, signed negative (spelled whole ++ text) = point :: rest ∧
        (point.isAsciiDigit = true ∨ point.isAsciiUpper = true ∨ point = '-') := by
    have isDigit : ∀ digit < 10, (CodePoint.ofDigit digit).isAsciiDigit = true := by decide
    obtain ⟨digit, below, digits, rfl⟩ := proper.first
    cases negative with
    | true => exact ⟨_, _, rfl, Or.inr (Or.inr rfl)⟩
    | false => exact ⟨_, _, rfl, Or.inl (isDigit digit below)⟩
  match number with
  | .int value =>
      change ∃ point rest, Text.ofInt value = point :: rest ∧ _
      rw [of_int_eq, ← List.append_nil (spelled _)]
      exact ofSigned (whole_numeral _) _ _
  | .double .nan => exact ⟨_, _, rfl, Or.inr (Or.inl (by decide))⟩
  | .double (.infinity true) => exact ⟨_, _, rfl, Or.inr (Or.inr rfl)⟩
  | .double (.infinity false) => exact ⟨_, _, rfl, Or.inr (Or.inl (by decide))⟩
  | .double (.finite negative magnitude) =>
      obtain ⟨spelling, written, -⟩ := Double.magnitude_spelling magnitude
      rw [write_finite_eq, written]
      exact ofSigned spelling.proper _ _

theorem read_written_number {limit : Option Nat} {number : Number} (fits : number.fits limit = true)
    (delimited : Delimited rest) (fuel : Nat) :
    readValue limit (fuel + 1) (writeNumber number ++ rest) = .ok (.number number, rest) := by
  cases number with
  | int value =>
      have short : ∀ most ∈ limit, (numeral 10 value.natAbs).length ≤ most := by
        rintro most ⟨⟩
        rw [← length_of_nat]
        exact of_decide_eq_true fits
      have read := read_number_whole (whole_numeral value.natAbs) (decide (value < 0)) delimited short
      have same : (if decide (value < 0) = true then -(value.natAbs : Int) else value.natAbs) =
          value := by
        split
        next negative =>
          rw [decide_eq_true_eq] at negative
          omega
        next positive =>
          rw [decide_eq_true_eq] at positive
          omega
      rw [digits_to_nat_numeral, same] at read
      change readValue limit (fuel + 1) (Text.ofInt value ++ rest) = _
      rw [of_int_eq, signed_append]
      exact read_value_signed (whole_numeral value.natAbs) read fuel
  | double value =>
      match value with
      | .nan => rfl
      | .infinity true => rfl
      | .infinity false => rfl
      | .finite negative magnitude =>
          obtain ⟨spelling, written, back⟩ := Double.magnitude_spelling magnitude
          have read := read_number_spelling limit spelling negative delimited
          rw [back] at read
          rw [write_finite_eq, written, signed_append]
          unfold Spelling.text at read ⊢
          rw [List.append_assoc] at read ⊢
          exact read_value_signed spelling.proper read fuel

end Written

end Json

end Dimming
