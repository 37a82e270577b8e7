import Dimming.Opacity
import Dimming.Proofs.Number.Grammar

/-!
# Numerals as numbers

A numeral at the beginning of a text is read up to its end and no further, and to the same number
whatever stands behind it. Converted by itself it is that number too.
-/

set_option autoImplicit false

namespace Dimming

namespace Text

variable {mantissa exponent amount sign text rest : Text}

theorem not_extended {kind : Text → Prop} {opening : Text}
    (longest : ∀ other, kind other → other <+: opening ++ rest → other <+: opening) :
    ∀ point ∈ rest.head?, ¬kind (opening ++ [point]) := by
  intro point first extended
  obtain ⟨behind, rfl⟩ := List.head?_eq_some_iff.1 first
  have more : opening ++ [point] <+: opening ++ point :: behind :=
    (List.prefix_append_right_inj _).2 (List.cons_prefix_cons.2 ⟨rfl, List.nil_prefix⟩)
  have shorter := (longest _ extended more).length_le
  simp at shorter

section Mantissas

theorem mem_mantissa (valued : mantissa.IsMantissa) {point : CodePoint} (inside : point ∈ mantissa) :
    point.isDecimalDigit = true ∨ point = '.' := by
  rcases mantissa_cases valued with ⟨-, known⟩ | ⟨whole, fraction, -, before, known, rfl⟩
  · exact Or.inl (known point inside)
  · rcases List.mem_append.1 inside with among | among
    · exact Or.inl (before point among)
    · rcases List.mem_cons.1 among with same | among
      · exact Or.inr same
      · exact Or.inl (known point among)

theorem digits_append_point {digits : Text} {point : CodePoint} (known : digits.Digits)
    (digit : point.isDecimalDigit = true) : Digits (digits ++ [point]) :=
  List.forall_mem_append.2 ⟨known, List.forall_mem_singleton.2 digit⟩

/-- Where a mantissa ends that does not go on, only an exponent is still read. -/
theorem read_of_mantissa (valued : mantissa.IsMantissa) :
    ∃ whole fraction : List Nat, ∀ rest : Text,
      (∀ point ∈ rest.head?, ¬IsMantissa (mantissa ++ [point])) →
      Decimal.read CodePoint.decimalValue? (mantissa ++ rest) =
        some (.ofDigits whole fraction
            (((Decimal.readExponent CodePoint.decimalValue? rest).map Prod.fst).getD 0),
          ((Decimal.readExponent CodePoint.decimalValue? rest).map Prod.snd).getD rest) := by
  rcases mantissa_cases valued with
    ⟨given, known⟩ | ⟨whole, fraction, given, before, behind, rfl⟩
  · refine ⟨mantissa.values, [], fun rest complete => ?_⟩
    have ended : rest.Ended := by
      refine ⟨no_digit_iff.2 fun point first => ?_, fun point first same => ?_⟩
      · refine Bool.eq_false_iff.2 fun digit => complete point first ?_
        exact .whole (by simp) (digits_append_point known digit)
      · refine complete point first ?_
        subst same
        exact .pointed given known fun _ absent => absurd absent List.not_mem_nil
    have none : Digits [] := fun _ absent => absurd absent List.not_mem_nil
    have read := Decimal.read_pointed given known none ended
    simpa [pointed, values] using read
  · refine ⟨whole.values, fraction.values, fun rest complete => ?_⟩
    have stops : Decimal.NoDigit CodePoint.decimalValue? rest := by
      refine no_digit_iff.2 fun point first => ?_
      refine Bool.eq_false_iff.2 fun digit => complete point first ?_
      rw [List.append_assoc, List.cons_append]
      exact mantissa_of_parts (given.imp_right fun _ => by simp) before
        (digits_append_point behind digit)
    rw [List.append_assoc, List.cons_append]
    exact Decimal.read_dotted given before behind stops

end Mantissas

section Exponents

theorem read_sign_eq (text : Text) :
    Decimal.readSign text = (decide (signOf text = "-"), past signOf text) := by
  match text with
  | [] => rfl
  | point :: behind =>
      unfold Decimal.readSign past signOf isSignPoint
      dsimp only
      by_cases minus : point = '-'
      · subst minus
        rfl
      · by_cases plus : point = '+'
        · subst plus
          rfl
        · have unsigned : ([] : Text) ≠ "-" := by decide
          simp [minus, plus, unsigned]

theorem read_of_exponent (scaled : exponent.IsExponent) :
    ∃ value, ∀ rest : Text, (∀ point ∈ rest.head?, ¬IsExponent (exponent ++ [point])) →
      Decimal.readExponent CodePoint.decimalValue? (exponent ++ rest) = some (value, rest) := by
  cases scaled with
  | @marked mark sign digits marks signed given known =>
      let amount : Int := digitsToNat 10 digits.values
      refine ⟨if decide (sign = "-") = true then -amount else amount, fun rest complete => ?_⟩
      have stops : Decimal.NoDigit CodePoint.decimalValue? rest := by
        refine no_digit_iff.2 fun point first => ?_
        refine Bool.eq_false_iff.2 fun digit => complete point first ?_
        rw [List.cons_append, List.append_assoc]
        exact .marked marks signed (by simp) (digits_append_point known digit)
      have signOwn := sign_of_digits signed given known rest
      have read := Decimal.read_digits_of_digits known stops
      obtain ⟨first, others, filled⟩ :=
        List.exists_cons_of_ne_nil (Decimal.values_ne_nil given known)
      unfold marksExponent at marks
      rw [List.cons_append, List.append_assoc]
      unfold Decimal.readExponent
      dsimp only
      rw [if_pos marks, read_sign_eq, past_of_append signOwn, signOwn, read]
      simp only [amount, filled]

theorem read_exponent_of_nil (none : exponentOf text = []) :
    Decimal.readExponent CodePoint.decimalValue? text = .none := by
  match text with
  | [] => rfl
  | mark :: behind =>
      unfold exponentOf at none
      dsimp only at none
      split at none
      next => cases none
      next incomplete =>
        have read := Decimal.read_digits_of_digits (digits_of_known (past signOf behind))
          (no_digit_iff.2 (past_digits_head (past signOf behind)))
        rw [part_and_past (digits_begin _)] at read
        unfold Decimal.readExponent
        dsimp only
        split
        next marks =>
          have nothing : digitsOf (past signOf behind) = [] := by
            by_contra given
            exact incomplete ⟨marks, given⟩
          rw [read_sign_eq, read, nothing]
          rfl
        next => rfl

end Exponents

section Amounts

theorem amount_of_self (counted : amount.IsAmount) : amountOf amount = amount := by
  have within := amount_longest counted (List.prefix_refl amount)
  have around := amount_begins amount
  exact (within.eq_of_length (Nat.le_antisymm within.length_le around.length_le)).symm

theorem read_of_amount (valued : mantissa.IsMantissa)
    (scaled : exponent = [] ∨ exponent.IsExponent) :
    ∃ decimal, ∀ rest : Text, amountOf (mantissa ++ exponent ++ rest) = mantissa ++ exponent →
      Decimal.read CodePoint.decimalValue? (mantissa ++ exponent ++ rest) =
        some (decimal, rest) := by
  obtain ⟨whole, fraction, read⟩ := read_of_mantissa valued
  have longest {rest : Text} (complete : amountOf (mantissa ++ exponent ++ rest) = mantissa ++ exponent)
      (other : Text) (counted : other.IsAmount) (begins : other <+: mantissa ++ exponent ++ rest) :
      other <+: mantissa ++ exponent := by
    have within := amount_longest counted begins
    rw [complete] at within
    exact within
  rcases scaled with rfl | scaled
  · refine ⟨.ofDigits whole fraction 0, fun rest complete => ?_⟩
    rw [List.append_nil] at longest complete ⊢
    have unmarked : exponentOf rest = [] := by
      rcases exponent_of_is rest with none | more
      · exact none
      · have further := (List.prefix_append_right_inj mantissa).2 (exponent_begins rest)
        have shorter := (longest complete _ (.decimal valued (Or.inr more)) further).length_le
        rw [List.length_append] at shorter
        exact List.eq_nil_of_length_eq_zero (by omega)
    have stops : ∀ point ∈ rest.head?, ¬IsMantissa (mantissa ++ [point]) := by
      refine not_extended fun other more begins => ?_
      have counted := IsAmount.decimal more (Or.inl rfl)
      rw [List.append_nil] at counted
      exact longest complete other counted begins
    rw [read rest stops, read_exponent_of_nil unmarked]
    rfl
  · obtain ⟨value, readScale⟩ := read_of_exponent scaled
    refine ⟨.ofDigits whole fraction value, fun rest complete => ?_⟩
    have stops : ∀ point ∈ (exponent ++ rest).head?, ¬IsMantissa (mantissa ++ [point]) := by
      cases scaled with
      | marked marks signed given known =>
          rintro point ⟨⟩ more
          rcases mem_mantissa more (List.mem_append_right _ List.mem_cons_self) with digit | dot
          · exact Bool.false_ne_true ((mark_no_digit marks).symm.trans digit)
          · exact mark_no_dot marks dot
    have scaleStops : ∀ point ∈ rest.head?, ¬IsExponent (exponent ++ [point]) := by
      refine not_extended fun other more begins => ?_
      have counted := IsAmount.decimal valued (Or.inr more)
      have further := (List.prefix_append_right_inj mantissa).2 begins
      rw [← List.append_assoc] at further
      exact (List.prefix_append_right_inj mantissa).1 (longest complete _ counted further)
    rw [List.append_assoc, read _ stops, readScale rest scaleStops]
    rfl

theorem read_of_no_mantissa (none : mantissaOf text = []) :
    Decimal.read CodePoint.decimalValue? text = .none := by
  have noDigits : digitsOf text = [] := by
    have begins := digits_begin_mantissa text
    rw [none] at begins
    exact List.prefix_nil.1 begins
  have whole : past digitsOf text = text := by
    unfold past
    rw [noDigits]
    rfl
  have stops := past_digits_head text
  rw [whole] at stops
  unfold Decimal.read
  rw [Decimal.read_digits_of_none (no_digit_iff.2 stops)]
  match text with
  | [] => rfl
  | point :: behind =>
      by_cases dot : point = '.'
      · subst dot
        have bare : digitsOf behind = [] := by
          by_contra given
          have some := mantissa_at_point whole (Or.inr given)
          rw [none, noDigits] at some
          cases some
        have read := Decimal.read_digits_of_digits (digits_of_known behind)
          (no_digit_iff.2 (past_digits_head behind))
        rw [part_and_past (digits_begin _), bare] at read
        simp only [if_true, read]
        rfl
      · simp only [if_neg dot]
        rfl

end Amounts

section Values

def amountValue? (negative : Bool) (text : Text) : Option Double :=
  if infinityName <+: text then some (.infinity negative)
  else (Decimal.read CodePoint.decimalValue? text).map fun (decimal, _) =>
    decimal.toDouble negative

theorem amount_value_none (none : amountOf text = []) (negative : Bool) :
    amountValue? negative text = .none := by
  unfold amountOf at none
  unfold amountValue?
  split at none
  next => cases none
  next unnamed =>
    rw [if_neg unnamed]
    split at none
    next nothing =>
      rw [read_of_no_mantissa nothing]
      rfl
    next some => exact absurd (List.append_eq_nil_iff.1 none).1 some

theorem amount_clean (counted : amount.IsAmount) :
    ∀ point ∈ amount, point.isBlank = false ∧ point ≠ '_' := by
  have digit {point : CodePoint} (isDigit : point.isDecimalDigit = true) :
      point.isBlank = false ∧ point ≠ '_' :=
    ⟨CodePoint.not_blank_of_digit isDigit, CodePoint.ne_of_kind isDigit (by decide)⟩
  cases counted with
  | infinity => decide
  | decimal valued scaled =>
      intro point inside
      rcases List.mem_append.1 inside with among | among
      · rcases mem_mantissa valued among with isDigit | rfl
        · exact digit isDigit
        · decide
      · rcases scaled with rfl | ⟨marks, signed, -, known⟩
        · exact absurd among List.not_mem_nil
        · rcases List.mem_cons.1 among with rfl | among
          · unfold marksExponent at marks
            simp only [Bool.or_eq_true, decide_eq_true_eq] at marks
            rcases marks with rfl | rfl <;> decide
          · rcases List.mem_append.1 among with among | among
            · rcases signed with rfl | rfl | rfl
              · exact absurd among List.not_mem_nil
              · rw [List.mem_singleton.1 among]
                decide
              · rw [List.mem_singleton.1 among]
                decide
            · exact digit (known point among)

theorem numeral_trimmed (signed : sign.IsSign) (counted : amount.IsAmount) :
    trimSpace (sign ++ amount) = sign ++ amount := by
  have ink : ∀ point ∈ sign ++ amount, point.isSpace = false := by
    intro point inside
    refine Bool.eq_false_iff.2 fun space => ?_
    have blank := CodePoint.blank_of_space space
    rcases List.mem_append.1 inside with among | among
    · rcases signed with rfl | rfl | rfl
      · exact absurd among List.not_mem_nil
      all_goals
        rw [List.mem_singleton.1 among] at blank
        exact absurd blank (by decide)
    · rw [(amount_clean counted point among).1] at blank
      cases blank
  have some : sign ++ amount ≠ [] := fun none =>
    amount_ne_nil counted (List.append_eq_nil_iff.1 none).2
  exact trim_bare ⟨some, fun point first => ink point (List.mem_of_mem_head? first),
    fun point last => ink point (List.mem_of_getLast? last)⟩

theorem no_letter_of_mantissa (valued : mantissa.IsMantissa) :
    ∀ point ∈ mantissa, point.NoLetter := by
  intro point inside
  rcases mem_mantissa valued inside with digit | rfl
  · exact CodePoint.no_letter_of_digit digit
  · unfold CodePoint.NoLetter
    decide

/-- An amount stands for one number: it is read where the amount ends, and it is converted to. -/
theorem value_of_amount (counted : amount.IsAmount) (negative : Bool) :
    ∃ number, (∀ rest : Text, amountOf (amount ++ rest) = amount →
        amountValue? negative (amount ++ rest) = some number) ∧
      ∀ sign : Text, sign.IsSign → decide (sign = "-") = negative →
        Double.ofText? (sign ++ amount) = some number := by
  have unsigned {sign : Text} (signed : sign.IsSign) (minus : decide (sign = "-") = negative) :
      Decimal.readSign (trimSpace (sign ++ amount)) = (negative, amount) := by
    have signOwn : signOf (sign ++ amount) = sign := by
      refine sign_of_append signed fun point first => ?_
      obtain ⟨opener, rest, rfl, opens⟩ := amount_opens counted
      obtain rfl := Option.some.inj first
      exact opener_no_sign opens
    rw [numeral_trimmed signed counted, read_sign_eq, past_of_append signOwn, signOwn, minus]
  cases counted with
  | infinity =>
      refine ⟨.infinity negative, fun rest _ => if_pos (List.prefix_append _ _),
        fun sign signed minus => ?_⟩
      unfold Double.ofText?
      rw [unsigned signed minus]
      rfl
  | @decimal mantissa exponent valued scaled =>
      have clean := amount_clean (.decimal valued scaled)
      have noLetter : ∀ point ∈ (mantissa ++ exponent).head?, point.NoLetter := by
        obtain ⟨opener, rest, rfl, -⟩ := mantissa_opens valued
        rintro point ⟨⟩
        exact no_letter_of_mantissa valued opener List.mem_cons_self
      obtain ⟨decimal, read⟩ := read_of_amount valued scaled
      refine ⟨decimal.toDouble negative, fun rest complete => ?_, fun sign signed minus => ?_⟩
      · have begins : mantissa <+: mantissa ++ exponent ++ rest := by
          rw [List.append_assoc]
          exact List.prefix_append _ _
        unfold amountValue?
        rw [if_neg (no_infinity_of_mantissa valued begins), read rest complete]
        rfl
      · have self := amount_of_self (.decimal valued scaled)
        have alone := read [] (by rw [List.append_nil, self])
        rw [List.append_nil] at alone
        rw [Double.of_text_decimal (unsigned signed minus) noLetter fun point inside =>
          (clean point inside).2, alone]
        rfl

end Values

end Text

end Dimming
