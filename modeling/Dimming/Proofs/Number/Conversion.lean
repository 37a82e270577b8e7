import Dimming.Opacity
import Dimming.Proofs.Json.Number
import Dimming.Proofs.Text.Trimming

/-!
# Conversion of texts to numbers

Digits with a minus in front or none, and with a point and more digits behind or none, are the
plain form of a number, whatever the script of the digits. Wherever such a form stands at the
beginning of a text it is read up to its end; the text as a whole is converted to the same number
if nothing but white space stands around the form.
-/

set_option autoImplicit false

namespace Dimming

open Json (signed)

namespace CodePoint

variable {point other : CodePoint}

theorem ne_of_kind {kind : CodePoint → Bool} (inside : kind point = true)
    (outside : kind other = false) : point ≠ other := by
  rintro rfl
  exact Bool.false_ne_true (outside.symm.trans inside)

/-- A digit, or what may stand among digits in a written number. -/
def isNumeric (point : CodePoint) : Bool :=
  point.isDecimalDigit || point = '.' || point = '-' || point = '+' || point = 'e'

theorem numeric_of_digit (digit : point.isDecimalDigit = true) : point.isNumeric = true := by
  unfold isNumeric
  rw [digit]
  rfl

theorem not_blank_of_numeric (numeric : point.isNumeric = true) : point.isBlank = false := by
  unfold isNumeric at numeric
  simp only [Bool.or_eq_true, decide_eq_true_eq] at numeric
  rcases numeric with (((digit | rfl) | rfl) | rfl) | rfl
  · exact not_blank_of_digit digit
  all_goals decide

def NoLetter (point : CodePoint) : Prop := point.value < 65 ∨ 128 ≤ point.value

theorem no_letter_of_digit (digit : point.isDecimalDigit = true) : point.NoLetter := by
  unfold isDecimalDigit decimalValue? isAsciiDigit at digit
  unfold NoLetter
  split at digit
  next =>
      split at digit
      next ascii =>
        rw [decide_eq_true_eq] at ascii
        omega
      next => cases digit
  next => omega

theorem no_letter_of_blank (blank : point.isBlank = true) : point.NoLetter := by
  unfold isBlank isSpace at blank
  unfold NoLetter
  simp only [Bool.or_eq_true, decide_eq_true_eq, beq_iff_eq] at blank
  omega

theorem lower_of_no_letter (none : point.NoLetter) : point.toAsciiLower = point := by
  unfold NoLetter at none
  unfold toAsciiLower
  rw [dif_neg (by omega)]

end CodePoint

namespace Text

def values (text : Text) : List Nat := text.filterMap CodePoint.decimalValue?

def Digits (text : Text) : Prop := ∀ point ∈ text, point.isDecimalDigit = true

def pointed (whole fraction : Text) : Text :=
  whole ++ if fraction.isEmpty then [] else ofString "." ++ fraction

/-- Nothing that a decimal could go on with comes first. -/
structure Ended (rest : Text) : Prop where
  digit : Decimal.NoDigit CodePoint.decimalValue? rest
  point : ∀ point ∈ rest.head?, point ≠ '.'

theorem no_digit_iff {rest : Text} :
    Decimal.NoDigit CodePoint.decimalValue? rest ↔
      ∀ point ∈ rest.head?, point.isDecimalDigit = false := by
  unfold Decimal.NoDigit CodePoint.isDecimalDigit
  simp only [Option.isSome_eq_false_iff, Option.isNone_iff_eq_none]

theorem ended_of_blank {rest : Text} (blank : ∀ point ∈ rest.head?, point.isBlank = true) :
    Ended rest where
  digit := by
    refine no_digit_iff.2 fun point first => Bool.eq_false_iff.2 fun digit => ?_
    exact Bool.false_ne_true ((CodePoint.not_blank_of_digit digit).symm.trans (blank point first))
  point := fun point first => CodePoint.ne_of_kind (blank point first) (by decide)

section Spelled

variable {digits : List Nat}

theorem decimal_reads_digits : Decimal.ReadsDigits CodePoint.decimalValue? := by
  unfold Decimal.ReadsDigits
  decide

theorem digits_spelled (known : InBase 10 digits) : Digits (spelled digits) := by
  intro point inside
  obtain ⟨digit, among, rfl⟩ := List.mem_map.1 inside
  unfold CodePoint.isDecimalDigit
  rw [decimal_reads_digits digit (known digit among)]
  rfl

theorem values_spelled (known : InBase 10 digits) : (spelled digits).values = digits := by
  induction digits with
  | nil => rfl
  | cons digit digits ih =>
      obtain ⟨below, others⟩ := in_base_cons.1 known
      have valued := decimal_reads_digits digit below
      unfold values spelled at ih ⊢
      rw [List.map_cons, List.filterMap_cons_some valued, ih others]

end Spelled

def Numeric (text : Text) : Prop := ∀ point ∈ text, point.isNumeric = true

theorem Digits.numeric {text : Text} (digits : text.Digits) : text.Numeric :=
  fun point inside => CodePoint.numeric_of_digit (digits point inside)

theorem Numeric.append {text other : Text} (numeric : text.Numeric) (also : other.Numeric) :
    Numeric (text ++ other) :=
  List.forall_mem_append.2 ⟨numeric, also⟩

theorem mem_pointed {whole fraction : Text} {point : CodePoint} (before : whole.Digits)
    (behind : fraction.Digits) (inside : point ∈ pointed whole fraction) :
    point.isDecimalDigit = true ∨ point = '.' := by
  rcases List.mem_append.1 inside with among | among
  · exact Or.inl (before point among)
  · split at among
    · exact absurd among List.not_mem_nil
    · rcases List.mem_cons.1 among with same | among
      · exact Or.inr same
      · exact Or.inl (behind point among)

theorem numeric_pointed {whole fraction : Text} (before : whole.Digits)
    (behind : fraction.Digits) : Numeric (pointed whole fraction) := by
  intro point inside
  rcases mem_pointed before behind inside with digit | rfl
  · exact CodePoint.numeric_of_digit digit
  · decide

theorem numeric_signed {unsigned : Text} (numeric : unsigned.Numeric) (negative : Bool) :
    Numeric (signed negative unsigned) := by
  cases negative with
  | true => exact List.forall_mem_cons.2 ⟨by decide, numeric⟩
  | false => exact numeric

theorem Numeric.bare {text : Text} (numeric : text.Numeric) (given : text ≠ [])
    {dropped : CodePoint → Bool}
    (blanks : ∀ {point : CodePoint}, dropped point = true → point.isBlank = true) :
    Bare dropped text := by
  have kept (point : CodePoint) (inside : point ∈ text) : dropped point = false :=
    Bool.eq_false_iff.2 fun isDropped => Bool.false_ne_true
      ((CodePoint.not_blank_of_numeric (numeric point inside)).symm.trans (blanks isDropped))
  exact ⟨given, fun point first => kept point (List.mem_of_mem_head? first),
    fun point last => kept point (List.mem_of_getLast? last)⟩

end Text

namespace Decimal

open Text

variable {text whole fraction rest : Text}

theorem read_sign_of_kind {kind : CodePoint → Bool} {point : CodePoint} (inside : kind point = true)
    (noMinus : kind '-' = false) (noPlus : kind '+' = false) :
    readSign (point :: rest) = (false, point :: rest) := by
  rw [readSign, if_neg (CodePoint.ne_of_kind inside noMinus),
    if_neg (CodePoint.ne_of_kind inside noPlus)]

theorem read_digits_of_digits (digits : text.Digits)
    (stops : NoDigit CodePoint.decimalValue? rest) :
    readDigits CodePoint.decimalValue? (text ++ rest) = (text.values, rest) := by
  induction text with
  | nil => exact read_digits_of_none stops
  | cons point text ih =>
      obtain ⟨digit, others⟩ := List.forall_mem_cons.1 digits
      obtain ⟨value, valued⟩ := Option.isSome_iff_exists.1 digit
      have more := ih others
      unfold values at more ⊢
      rw [List.cons_append, readDigits, valued, List.filterMap_cons_some valued]
      dsimp only
      rw [more]

theorem values_ne_nil (given : text ≠ []) (digits : text.Digits) : text.values ≠ [] := by
  cases text with
  | nil => exact absurd rfl given
  | cons point text =>
      obtain ⟨value, valued⟩ := Option.isSome_iff_exists.1 (digits point List.mem_cons_self)
      unfold values
      rw [List.filterMap_cons_some valued]
      exact List.cons_ne_nil _ _

theorem read_ended (ended : rest.Ended) : Decimal.read CodePoint.decimalValue? rest = none := by
  have nothing := read_digits_of_none ended.digit
  unfold Decimal.read
  rw [nothing]
  cases rest with
  | nil => rfl
  | cons point rest =>
      simp only [if_neg (ended.point point rfl)]
      rfl

theorem read_dotted (given : whole ≠ [] ∨ fraction ≠ []) (before : whole.Digits)
    (behind : fraction.Digits) (stops : NoDigit CodePoint.decimalValue? rest) :
    Decimal.read CodePoint.decimalValue? (whole ++ CodePoint.ofChar '.' :: (fraction ++ rest)) =
      some (.ofDigits whole.values fraction.values
          (((readExponent CodePoint.decimalValue? rest).map Prod.fst).getD 0),
        ((readExponent CodePoint.decimalValue? rest).map Prod.snd).getD rest) := by
  have dot : NoDigit CodePoint.decimalValue? (CodePoint.ofChar '.' :: (fraction ++ rest)) := by
    rintro point ⟨⟩
    decide
  have filled : (whole.values.isEmpty && fraction.values.isEmpty) = false := by
    rw [Bool.and_eq_false_iff, List.isEmpty_eq_false_iff, List.isEmpty_eq_false_iff]
    exact given.imp (values_ne_nil · before) (values_ne_nil · behind)
  unfold Decimal.read
  rw [read_digits_of_digits before dot]
  simp only [read_digits_of_digits behind stops, if_true, filled, Bool.false_eq_true, if_false]
  cases readExponent CodePoint.decimalValue? rest <;> rfl

theorem read_pointed (given : whole ≠ []) (before : whole.Digits) (behind : fraction.Digits)
    (ended : rest.Ended) :
    Decimal.read CodePoint.decimalValue? (pointed whole fraction ++ rest) =
      some (.ofDigits whole.values fraction.values
          (((readExponent CodePoint.decimalValue? rest).map Prod.fst).getD 0),
        ((readExponent CodePoint.decimalValue? rest).map Prod.snd).getD rest) := by
  unfold pointed
  rw [List.append_assoc]
  by_cases none : fraction = []
  · have filled : whole.values.isEmpty = false :=
      List.isEmpty_eq_false_iff.2 (values_ne_nil given before)
    subst none
    unfold Decimal.read
    rw [List.isEmpty_nil, if_pos rfl, List.nil_append, read_digits_of_digits before ended.digit]
    cases rest with
    | nil =>
        simp only [filled, Bool.false_and, Bool.false_eq_true, if_false]
        rfl
    | cons point rest =>
        simp only [if_neg (ended.point point rfl), filled, Bool.false_and, Bool.false_eq_true,
          if_false]
        cases readExponent CodePoint.decimalValue? (point :: rest) <;> rfl
  · rw [if_neg (by simpa using none)]
    exact read_dotted (Or.inl given) before behind ended.digit

end Decimal

/-- A number in its plain form: digits with a minus in front or none, and with a point and more
digits behind or none. -/
structure PlainNumber where
  negative : Bool
  whole : Text
  fraction : Text
  given : whole ≠ []
  before : whole.Digits
  behind : fraction.Digits

namespace PlainNumber

open Text

variable (plain : PlainNumber) {rest : Text}

def unsigned : Text := pointed plain.whole plain.fraction

def text : Text := signed plain.negative plain.unsigned

def decimal : Decimal := .ofDigits plain.whole.values plain.fraction.values 0

def toDouble : Double := plain.decimal.toDouble plain.negative

theorem begins :
    ∃ point others, point.isDecimalDigit = true ∧ plain.unsigned = point :: others := by
  obtain ⟨point, others, same⟩ := List.exists_cons_of_ne_nil plain.given
  have digit := plain.before point (by simp [same])
  unfold unsigned pointed
  rw [same, List.cons_append]
  exact ⟨point, _, digit, rfl⟩

theorem numeric : Numeric plain.text :=
  numeric_signed (numeric_pointed plain.before plain.behind) _

theorem no_exponent : CodePoint.ofChar 'e' ∉ plain.text := by
  have unmarked : CodePoint.ofChar 'e' ∉ plain.unsigned := by
    intro inside
    rcases mem_pointed plain.before plain.behind inside with digit | point
    · exact absurd digit (by decide)
    · exact absurd point (by decide)
  unfold text signed
  split
  · exact List.not_mem_cons_of_ne_of_not_mem (by decide) unmarked
  · exact unmarked

theorem text_ne_nil : plain.text ≠ [] := by
  obtain ⟨point, others, -, same⟩ := plain.begins
  unfold text signed
  rw [same]
  split <;> exact List.cons_ne_nil _ _

theorem read_sign (rest : Text) :
    Decimal.readSign (plain.text ++ rest) = (plain.negative, plain.unsigned ++ rest) := by
  obtain ⟨point, others, digit, same⟩ := plain.begins
  unfold text
  rw [same]
  cases plain.negative with
  | true => rfl
  | false =>
      exact Decimal.read_sign_of_kind digit (by decide) (by decide)

theorem read (ended : rest.Ended) (unmarked : ∀ point ∈ rest.head?, point ≠ 'e' ∧ point ≠ 'E') :
    Decimal.read CodePoint.decimalValue? (plain.unsigned ++ rest) = some (plain.decimal, rest) := by
  unfold unsigned
  rw [Decimal.read_pointed plain.given plain.before plain.behind ended,
    Decimal.read_exponent_none unmarked]
  rfl

theorem read_blanks (blanks : ∀ point ∈ rest, point.isBlank = true) :
    Decimal.read CodePoint.decimalValue? (plain.unsigned ++ rest) = some (plain.decimal, rest) := by
  have blank (point : CodePoint) (first : point ∈ rest.head?) : point.isBlank = true :=
    blanks point (List.mem_of_mem_head? first)
  exact plain.read (ended_of_blank blank) fun point first =>
    ⟨CodePoint.ne_of_kind (blank point first) (by decide),
      CodePoint.ne_of_kind (blank point first) (by decide)⟩

end PlainNumber

namespace Double

open Text

variable {text unsigned : Text} {negative : Bool}

theorem drop_underscores_none (clean : ∀ point ∈ text, point ≠ '_') (afterDigit : Bool) :
    dropUnderscores afterDigit text = some text := by
  induction text generalizing afterDigit with
  | nil => rfl
  | cons point text ih =>
      obtain ⟨other, clean⟩ := List.forall_mem_cons.1 clean
      rw [dropUnderscores.eq_def]
      dsimp only
      rw [if_neg other, ih clean]
      rfl

theorem of_name_none (noLetter : ∀ point ∈ text.head?, point.NoLetter) :
    ofName? negative text.toAsciiLower = none := by
  have other {letter : Char} {name : Text} (isLetter : ¬(CodePoint.ofChar letter).NoLetter) :
      text.toAsciiLower ≠ CodePoint.ofChar letter :: name := by
    intro same
    cases text with
    | nil => cases same
    | cons point text =>
        have none := noLetter point rfl
        obtain ⟨lowered, -⟩ := List.cons.inj same
        rw [CodePoint.lower_of_no_letter none] at lowered
        exact isLetter (lowered ▸ none)
  have infinite : ¬(CodePoint.ofChar 'i').NoLetter := by
    unfold CodePoint.NoLetter
    decide
  have nothing : ¬(CodePoint.ofChar 'n').NoLetter := by
    unfold CodePoint.NoLetter
    decide
  have apart : ¬(text.toAsciiLower = ofString "inf" ∨ text.toAsciiLower = ofString "infinity") :=
    not_or.2 ⟨other infinite, other infinite⟩
  have apart' : text.toAsciiLower ≠ ofString "nan" := other nothing
  unfold ofName?
  rw [if_neg apart, if_neg apart']

/-- What does not look like a name is converted as the decimal that it is. -/
theorem of_text_decimal (signed : Decimal.readSign text.trimSpace = (negative, unsigned))
    (noLetter : ∀ point ∈ unsigned.head?, point.NoLetter) (clean : ∀ point ∈ unsigned, point ≠ '_') :
    ofText? text = (Decimal.read CodePoint.decimalValue? unsigned).bind fun (decimal, rest) =>
      if rest.isEmpty then some (decimal.toDouble negative) else none := by
  unfold ofText?
  rw [signed]
  dsimp only
  rw [of_name_none noLetter, drop_underscores_none clean]
  rfl

section Plain

variable {plain : PlainNumber} {before behind : Text}

/-- What a plain number is converted to, and that nothing but blanks behind it is in the way. -/
theorem of_text_behind (trimmed : text.trimSpace = plain.text ++ behind)
    (blanks : ∀ point ∈ behind, point.isBlank = true) :
    ofText? text = if behind.isEmpty then some plain.toDouble else none := by
  obtain ⟨digit, others, isDigit, same⟩ := plain.begins
  have signed := plain.read_sign behind
  have clean : ∀ point ∈ plain.unsigned ++ behind, point ≠ '_' := by
    intro point inside
    rcases List.mem_append.1 inside with number | blank
    · exact CodePoint.ne_of_kind (numeric_pointed plain.before plain.behind point number)
        (by decide)
    · exact CodePoint.ne_of_kind (blanks point blank) (by decide)
  have noLetter : ∀ point ∈ (plain.unsigned ++ behind).head?, point.NoLetter := by
    rw [same]
    rintro point ⟨⟩
    exact CodePoint.no_letter_of_digit isDigit
  rw [← trimmed] at signed
  rw [of_text_decimal signed noLetter clean, plain.read_blanks blanks]
  rfl

/-- A blank that is left in front of a number is in the way. -/
theorem of_text_ahead (trimmed : text.trimSpace = before ++ (plain.text ++ behind))
    (blanksBefore : ∀ point ∈ before, point.isBlank = true)
    (blanksBehind : ∀ point ∈ behind, point.isBlank = true) (more : before ≠ []) :
    ofText? text = none := by
  obtain ⟨blank, others, rfl⟩ := List.exists_cons_of_ne_nil more
  have isBlank := blanksBefore blank List.mem_cons_self
  have signed : Decimal.readSign text.trimSpace =
      (false, blank :: others ++ (plain.text ++ behind)) := by
    rw [trimmed]
    exact Decimal.read_sign_of_kind isBlank (by decide) (by decide)
  have clean : ∀ point ∈ blank :: others ++ (plain.text ++ behind), point ≠ '_' := by
    intro point inside
    rcases List.mem_append.1 inside with ahead | inside
    · exact CodePoint.ne_of_kind (blanksBefore point ahead) (by decide)
    · rcases List.mem_append.1 inside with number | after
      · exact CodePoint.ne_of_kind (plain.numeric point number) (by decide)
      · exact CodePoint.ne_of_kind (blanksBehind point after) (by decide)
  have first (point : CodePoint) (first : point ∈ (blank :: others ++ (plain.text ++ behind)).head?) :
      point.isBlank = true := by
    obtain rfl := Option.some.inj first
    exact isBlank
  have nothing := Decimal.read_ended (Text.ended_of_blank first)
  rw [of_text_decimal signed (fun point head => CodePoint.no_letter_of_blank (first point head)) clean,
    nothing]
  rfl

end Plain

end Double

end Dimming
