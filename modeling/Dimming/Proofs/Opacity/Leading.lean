import Dimming.Proofs.Number.Beginning
import Dimming.Proofs.Pattern.Words

/-!
# The number at the beginning of a text

The expression that looks for a number behind blanks is matched with preferences: digits before
fewer digits, an exponent before none. Nowhere does an earlier choice have to be taken back for a
later part to match, so its preferred match ends where the longest numeral does.
-/

set_option autoImplicit false

namespace Dimming

namespace Opacity

open Pattern Text

def anyDigit : Pattern := .one CodePoint.isDecimalDigit

def anySign : Pattern := optional (.one isSignPoint)

def mantissaShape : Pattern :=
  .choice (inOrder [oneOrMore anyDigit, optional (literal "."), .repeated anyDigit])
    (inOrder [literal ".", oneOrMore anyDigit])

def exponentShape : Pattern :=
  optional (inOrder [.one marksExponent, anySign, oneOrMore anyDigit])

def amountShape : Pattern :=
  .choice (literal infinityName) (.sequence mantissaShape exponentShape)

def numberShape : Pattern := inOrder [.repeated (.one CodePoint.isBlank), anySign, amountShape]

section Parts

variable {text : Array CodePoint} {rest : Pattern}

def leftOf (text : Array CodePoint) (offset : Nat) : Text := text.toList.drop offset

theorem left_past (part : Text → Text) (offset : Nat) :
    leftOf text (offset + (part (leftOf text offset)).length) = past part (leftOf text offset) :=
  (List.drop_drop).symm

theorem left_of_point {offset : Nat} {point : CodePoint} (here : text[offset]? = some point) :
    leftOf text offset = point :: leftOf text (offset + 1) :=
  drop_of_point here

theorem left_behind {offset : Nat} {point : CodePoint} {behind : Text}
    (same : leftOf text offset = point :: behind) : leftOf text (offset + 1) = behind := by
  have dropped : leftOf text (offset + 1) = (leftOf text offset).drop 1 := List.drop_drop.symm
  rw [dropped, same]
  rfl

theorem point_of_left (offset : Nat) : text[offset]? = (leftOf text offset).head? := by
  unfold leftOf
  rw [List.head?_drop, Array.getElem?_toList]

theorem ends_digits_head (matched : ∀ offset, ends text rest offset ≠ []) (offset : Nat) :
    (ends text (.sequence (oneOrMore anyDigit) rest) offset).head? =
      if digitsOf (leftOf text offset) = [] then none
      else (ends text rest (offset + (digitsOf (leftOf text offset)).length)).head? := by
  unfold anyDigit
  rw [ends_name_sequence_head matched]
  cases here : text[offset]? with
  | none =>
      have nothing : leftOf text offset = [] := drop_of_end here
      rw [nothing]
      rfl
  | some point =>
      rw [Option.any_some]
      by_cases digit : point.isDecimalDigit = true
      · have some : digitsOf (leftOf text offset) ≠ [] := by
          rw [left_of_point here]
          unfold digitsOf
          rw [List.takeWhile_cons_of_pos digit]
          exact List.cons_ne_nil _ _
        rw [if_pos digit, if_neg some]
        rfl
      · have none : digitsOf (leftOf text offset) = [] := by
          rw [left_of_point here]
          exact List.takeWhile_cons_of_neg digit
        rw [if_neg digit, if_pos none]

theorem ends_more_digits_head (matched : ∀ offset, ends text rest offset ≠ []) (offset : Nat) :
    (ends text (.sequence (.repeated anyDigit) rest) offset).head? =
      (ends text rest (offset + (digitsOf (leftOf text offset)).length)).head? :=
  ends_run_sequence_head matched offset

theorem ends_dot_sequence (offset : Nat) :
    ends text (.sequence (literal ".") rest) offset =
      if (leftOf text offset).head? = some (CodePoint.ofChar '.') then ends text rest (offset + 1)
      else [] := by
  rw [← point_of_left]
  exact ends_point_sequence '.' rest offset

theorem ends_sign_sequence (refuses : Refuses text rest isSignPoint) (offset : Nat) :
    ends text (.sequence anySign rest) offset =
      ends text rest (offset + (signOf (leftOf text offset)).length) := by
  unfold anySign
  rw [ends_optional_sequence, ends_one_sequence]
  cases here : text[offset]? with
  | none =>
      have nothing : leftOf text offset = [] := drop_of_end here
      rw [nothing]
      rfl
  | some point =>
      rw [left_of_point here, Option.any_some]
      unfold signOf
      dsimp only
      by_cases isSign : isSignPoint point = true
      · rw [if_pos isSign, if_pos isSign, refuses offset point here isSign, List.append_nil]
        rfl
      · rw [if_neg isSign, if_neg isSign]
        rfl

theorem head_none_iff {ends : List Nat} : ends.head? = none ↔ ends = [] := List.head?_eq_none_iff

theorem ends_exponent_head (offset : Nat) :
    (ends text exponentShape offset).head? =
      some (offset + (exponentOf (leftOf text offset)).length) := by
  have matched (offset : Nat) : ends text .empty offset ≠ [] := List.cons_ne_nil _ _
  have refuses : Refuses text (.sequence (oneOrMore anyDigit) .empty) isSignPoint := by
    intro offset point here isSign
    rw [← head_none_iff, ends_digits_head matched, if_pos]
    rw [left_of_point here]
    refine digits_of_other ?_
    rintro other ⟨⟩
    exact Bool.eq_false_iff.2 fun digit =>
      Bool.false_ne_true ((digit_no_sign digit).symm.trans isSign)
  have shape : ends text exponentShape offset =
      ends text (.sequence (.one marksExponent) (.sequence anySign
        (.sequence (oneOrMore anyDigit) .empty))) offset ++ [offset] := rfl
  rw [shape, List.head?_append, ends_one_sequence, point_of_left]
  cases same : leftOf text offset with
  | nil => rfl
  | cons mark behind =>
      have next := left_behind same
      rw [List.head?_cons, Option.any_some]
      unfold exponentOf
      dsimp only
      by_cases marks : marksExponent mark = true
      · rw [if_pos marks, ends_sign_sequence refuses, ends_digits_head matched, left_past, next]
        by_cases given : digitsOf (past signOf behind) = []
        · rw [if_pos given, if_neg fun parts => parts.2 given]
          rfl
        · rw [if_neg given, if_pos ⟨marks, given⟩]
          simp only [ends, List.head?_cons, Option.some_or, Option.some.injEq, List.length_cons,
            List.length_append]
          omega
      · rw [if_neg marks, if_neg fun parts => marks parts.1]
        rfl

theorem ends_whole_head (matched : ∀ offset, ends text rest offset ≠ []) (offset : Nat) :
    (ends text (.sequence (inOrder [oneOrMore anyDigit, optional (literal "."),
      .repeated anyDigit]) rest) offset).head? =
        if digitsOf (leftOf text offset) = [] then none
        else (ends text rest (offset + (mantissaOf (leftOf text offset)).length)).head? := by
  have found (offset : Nat) : (ends text (.sequence (.repeated anyDigit) rest) offset).head?.isSome := by
    rw [ends_more_digits_head matched]
    exact List.isSome_head?.2 (matched _)
  have matchedFraction (offset : Nat) : ends text
      (.sequence (optional (literal ".")) (.sequence (.repeated anyDigit) rest)) offset ≠ [] := by
    rw [ends_optional_sequence]
    exact fun none => List.isSome_head?.1 (found offset) (List.append_eq_nil_iff.1 none).2
  have parts : ends text (.sequence (inOrder [oneOrMore anyDigit, optional (literal "."),
      .repeated anyDigit]) rest) offset =
        ends text (.sequence (oneOrMore anyDigit) (.sequence (optional (literal "."))
          (.sequence (.repeated anyDigit) rest))) offset :=
    ends_in_order_sequence _ rest offset
  rw [parts, ends_digits_head matchedFraction]
  by_cases given : digitsOf (leftOf text offset) = []
  · rw [if_pos given, if_pos given]
  rw [if_neg given, if_neg given, ends_optional_sequence, List.head?_append, ends_dot_sequence,
    left_past]
  by_cases pointed : (past digitsOf (leftOf text offset)).head? = some (CodePoint.ofChar '.')
  · obtain ⟨behind, same⟩ := List.head?_eq_some_iff.1 pointed
    have reached := left_behind ((left_past digitsOf offset).trans same)
    rw [if_pos pointed, Option.or_of_isSome (found _), ends_more_digits_head matched, reached,
      mantissa_at_point same (Or.inl given), List.length_append, List.length_cons]
    congr 2
    omega
  · rw [if_neg pointed, ends_more_digits_head matched, left_past,
      digits_of_other (past_digits_head _), mantissa_no_point pointed]
    rfl

theorem ends_mantissa_head (matched : ∀ offset, ends text rest offset ≠ []) (offset : Nat) :
    (ends text (.sequence mantissaShape rest) offset).head? =
      if mantissaOf (leftOf text offset) = [] then none
      else (ends text rest (offset + (mantissaOf (leftOf text offset)).length)).head? := by
  have fraction : ends text (.sequence (inOrder [literal ".", oneOrMore anyDigit]) rest) offset =
      ends text (.sequence (literal ".") (.sequence (oneOrMore anyDigit) rest)) offset :=
    ends_in_order_sequence _ rest offset
  unfold mantissaShape
  rw [ends_choice_sequence, List.head?_append, ends_whole_head matched, fraction,
    ends_dot_sequence]
  by_cases digits : digitsOf (leftOf text offset) = []
  · have here : past digitsOf (leftOf text offset) = leftOf text offset := by
      unfold past
      rw [digits]
      rfl
    rw [if_pos digits, Option.none_or]
    by_cases pointed : (leftOf text offset).head? = some (CodePoint.ofChar '.')
    · obtain ⟨behind, same⟩ := List.head?_eq_some_iff.1 pointed
      rw [if_pos pointed, ends_digits_head matched, left_behind same]
      by_cases none : digitsOf behind = []
      · rw [if_pos none, if_pos (mantissa_of_bare_point (here.trans same) digits none)]
      · have mantissa := mantissa_at_point (here.trans same) (Or.inr none)
        rw [digits, List.nil_append] at mantissa
        rw [if_neg none, mantissa, if_neg (List.cons_ne_nil _ _), List.length_cons, Nat.add_assoc,
          Nat.add_comm 1]
    · have other : (past digitsOf (leftOf text offset)).head? ≠ some (CodePoint.ofChar '.') := by
        rw [here]
        exact pointed
      rw [if_neg pointed, mantissa_no_point other, if_pos digits]
      rfl
  · have given : mantissaOf (leftOf text offset) ≠ [] := by
      intro none
      have within := digits_begin_mantissa (leftOf text offset)
      rw [none] at within
      exact digits (List.prefix_nil.1 within)
    rw [if_neg digits, if_neg given, Option.or_of_isSome (List.isSome_head?.2 (matched _))]

theorem ends_amount_head (offset : Nat) :
    (ends text amountShape offset).head? =
      if amountOf (leftOf text offset) = [] then none
      else some (offset + (amountOf (leftOf text offset)).length) := by
  have matched (offset : Nat) : ends text exponentShape offset ≠ [] := by
    rw [← List.isSome_head?, ends_exponent_head]
    rfl
  have shape : ends text amountShape offset =
      ends text (literal infinityName) offset ++
        ends text (.sequence mantissaShape exponentShape) offset := rfl
  have name : ends text (literal infinityName) offset =
      if infinityName <+: leftOf text offset then [offset + infinityName.length] else [] := by
    rw [← ends_sequence_empty, ends_literal_sequence]
    rfl
  rw [shape, List.head?_append, name, ends_mantissa_head matched, ends_exponent_head, left_past]
  unfold amountOf
  by_cases named : infinityName <+: leftOf text offset
  · rw [if_pos named, if_pos named, if_neg (amount_ne_nil .infinity)]
    rfl
  · rw [if_neg named, if_neg named]
    by_cases none : mantissaOf (leftOf text offset) = []
    · rw [if_pos none, if_pos none, if_pos rfl]
      rfl
    · have given : mantissaOf (leftOf text offset) ++
          exponentOf (past mantissaOf (leftOf text offset)) ≠ [] :=
        fun parts => none (List.append_eq_nil_iff.1 parts).1
      rw [if_neg none, if_neg none, if_neg given, List.length_append, Nat.add_assoc]
      rfl

theorem refuses_amount {accepts : CodePoint → Bool}
    (other : ∀ point, opensAmount point = true → accepts point = false) :
    Refuses text (.sequence amountShape .empty) accepts := by
  intro offset point here accepted
  have closed : ¬opensAmount point = true := fun opens =>
    Bool.false_ne_true ((other point opens).symm.trans accepted)
  rw [ends_sequence_empty, ← head_none_iff, ends_amount_head, left_of_point here,
    amount_of_other closed, if_pos rfl]

end Parts

section Whole

variable {text : Text}

def pastBlanks (text : Text) : Text := text.dropWhile CodePoint.isBlank

theorem past_run_blanks (text : Text) :
    leftOf text.toArray (pastRun text.toArray CodePoint.isBlank 0) = pastBlanks text := by
  unfold leftOf pastRun pastBlanks
  rw [List.drop_zero, Nat.zero_add]
  exact drop_taken _ _

/-- The preferred match ends behind the longest numeral. -/
theorem number_end (text : Text) :
    endAt? text.toArray numberShape 0 =
      if numeralOf (pastBlanks text) = [] then none
      else some (pastRun text.toArray CodePoint.isBlank 0 + (numeralOf (pastBlanks text)).length) := by
  have refusesSign : Refuses text.toArray (.sequence amountShape .empty) isSignPoint :=
    refuses_amount fun _ => opener_no_sign
  have refusesBlank : Refuses text.toArray (.sequence anySign (.sequence amountShape .empty))
      CodePoint.isBlank := by
    intro offset point here blank
    have unsigned : isSignPoint point = false :=
      Bool.eq_false_iff.2 fun isSign => Bool.false_ne_true ((sign_no_blank isSign).symm.trans blank)
    have noSign : signOf (leftOf text.toArray offset) = [] := by
      rw [left_of_point here]
      exact if_neg (Bool.not_eq_true _ ▸ unsigned)
    rw [ends_sign_sequence refusesSign, noSign]
    exact refuses_amount (fun _ => opener_no_blank) offset point here blank
  unfold numeralOf
  rw [endAt?_eq_head?]
  change (ends text.toArray (.sequence (.repeated (.one CodePoint.isBlank))
    (.sequence anySign (.sequence amountShape .empty))) 0).head? = _
  rw [ends_run_sequence refusesBlank, ends_sign_sequence refusesSign, ends_sequence_empty,
    ends_amount_head, left_past, past_run_blanks]
  by_cases none : amountOf (past signOf (pastBlanks text)) = []
  · rw [if_pos none, if_pos none, if_pos rfl]
  · have given : signOf (pastBlanks text) ++ amountOf (past signOf (pastBlanks text)) ≠ [] :=
      fun parts => none (List.append_eq_nil_iff.1 parts).2
    rw [if_neg none, if_neg none, if_neg given, List.length_append, Nat.add_assoc]

theorem leading_number_eq (text : Text) :
    leadingNumber? text = amountValue? (decide (signOf (pastBlanks text) = "-"))
      (past signOf (pastBlanks text)) := by
  have sign := read_sign_eq (pastBlanks text)
  unfold pastBlanks at sign ⊢
  unfold leadingNumber? amountValue?
  rw [sign]
  simp only [← List.isPrefixOf_iff_prefix]
  rfl

theorem leading_number_of_nil (none : numeralOf (pastBlanks text) = []) :
    leadingNumber? text = .none := by
  have noAmount : amountOf (past signOf (pastBlanks text)) = [] := by
    by_contra some
    unfold numeralOf at none
    rw [if_neg some] at none
    exact some (List.append_eq_nil_iff.1 none).2
  rw [leading_number_eq, amount_value_none noAmount]

theorem leading_number_of_numeral (given : numeralOf (pastBlanks text) ≠ []) :
    ∃ number, Double.ofText? (numeralOf (pastBlanks text)) = some number ∧
      leadingNumber? text = some number := by
  obtain ⟨some, same⟩ := numeral_of_amount given
  obtain ⟨number, read, converted⟩ := value_of_amount (amount_of_is some)
    (decide (signOf (pastBlanks text) = "-"))
  have parts := part_and_past (amount_begins (past signOf (pastBlanks text)))
  refine ⟨number, ?_, ?_⟩
  · rw [same]
    exact converted _ (sign_of_is _) rfl
  · have value := read (past amountOf (past signOf (pastBlanks text))) (congrArg amountOf parts)
    rw [parts] at value
    rw [leading_number_eq, value]

theorem past_blanks_of_taken {numeral : Text} (counted : numeral.IsNumeral)
    (begins : numeral <+: pastBlanks text) :
    pastBlanks (text.take (pastRun text.toArray CodePoint.isBlank 0 + numeral.length)) =
      numeral := by
  have run : pastRun text.toArray CodePoint.isBlank 0 =
      (text.takeWhile CodePoint.isBlank).length := Nat.zero_add _
  have blanks : ∀ point ∈ text.takeWhile CodePoint.isBlank, point.isBlank = true :=
    fun _ inside => List.mem_takeWhile_imp inside
  obtain ⟨rest, parts⟩ := begins
  have around : text = text.takeWhile CodePoint.isBlank ++ numeral ++ rest := by
    rw [List.append_assoc, parts]
    exact List.takeWhile_append_dropWhile.symm
  have taken : text.take ((text.takeWhile CodePoint.isBlank).length + numeral.length) =
      text.takeWhile CodePoint.isBlank ++ numeral :=
    (congrArg (List.take _) around).trans (List.take_left' List.length_append)
  have first : numeral.dropWhile CodePoint.isBlank = numeral := by
    obtain ⟨point, others, rfl, ink⟩ := numeral_opens counted
    exact List.dropWhile_cons_of_neg (Bool.not_eq_true _ ▸ ink)
  unfold pastBlanks
  rw [run, taken, List.dropWhile_append_of_pos blanks, first]

end Whole

/-- The number in front of a text is what the longest numeral there is converted to, and there is
none if no numeral is there. The expression that is matched finds that numeral; an exponent that does
not get complete and a second point end it. -/
theorem leading_number_is_longest (text : Text) :
    (leadingNumber? text = none ↔ ∀ opening, opening <+: pastBlanks text → ¬IsNumeral opening) ∧
    (∀ opening, opening <+: pastBlanks text → IsNumeral opening →
      ∃ numeral, IsLongest IsNumeral (pastBlanks text) numeral) ∧
    (∀ numeral, IsLongest IsNumeral (pastBlanks text) numeral →
      ∃ number, Double.ofText? numeral = some number ∧ leadingNumber? text = some number) ∧
    (endAt? text.toArray numberShape 0 = none ↔ leadingNumber? text = none) ∧
    (∀ stop, endAt? text.toArray numberShape 0 = some stop →
      IsLongest IsNumeral (pastBlanks text) (pastBlanks (text.take stop))) ∧
    ∀ sign mantissa behind : Text, sign.IsSign → mantissa.IsMantissa →
      EndsMantissa mantissa behind → pastBlanks text = sign ++ (mantissa ++ behind) →
        IsLongest IsNumeral (pastBlanks text) (sign ++ mantissa) := by
  have none_iff : leadingNumber? text = none ↔ numeralOf (pastBlanks text) = [] := by
    refine ⟨fun none => ?_, leading_number_of_nil⟩
    by_contra given
    obtain ⟨number, -, found⟩ := leading_number_of_numeral given
    rw [none] at found
    cases found
  have ended := number_end text
  refine ⟨none_iff.trans numeral_of_nil_iff, ?_, ?_, ?_, ?_, ?_⟩
  · intro opening begins counted
    exact ⟨_, numeral_of_longest (numeral_longest counted begins).2⟩
  · intro numeral longest
    have given := (numeral_longest longest.fits longest.begins).2
    rw [longest.unique (numeral_of_longest given)]
    exact leading_number_of_numeral given
  · rw [none_iff, ended]
    split
    next none => simp [none]
    next given => simp [given]
  · intro stop stopped
    rw [ended] at stopped
    split at stopped
    next => cases stopped
    next given =>
      obtain rfl := Option.some.inj stopped
      have longest := numeral_of_longest given
      rw [past_blanks_of_taken longest.fits longest.begins]
      exact longest
  · intro sign mantissa behind signed valued ending same
    have numeral := numeral_of_ended signed valued ending
    have given : sign ++ mantissa ≠ [] :=
      fun parts => mantissa_ne_nil valued (List.append_eq_nil_iff.1 parts).2
    rw [← same] at numeral
    rw [← numeral] at given ⊢
    exact numeral_of_longest given

/-- An exponent without digits is left, and so is a second point. -/
theorem unfinished_parts_left :
    (∃ number, Double.ofText? "5" = some number ∧ leadingNumber? "5e+" = some number) ∧
      (∃ number, Double.ofText? "-1.2" = some number ∧ leadingNumber? " -1.2.3" = some number) ∧
      leadingNumber? "e5" = none := by
  refine ⟨?_, ?_, ?_⟩
  · obtain ⟨-, -, value, -, -, ends⟩ := leading_number_is_longest "5e+"
    have unfinished : ∀ opening, opening <+: ("e+" : Text) → ¬IsExponent opening :=
      no_exponent_of_nil (by decide)
    exact value _ (ends [] "5" "e+" (Or.inl rfl) (.whole (by decide) (List.all_eq_true.1 (by decide)))
      (.mark (by decide) unfinished) (by decide))
  · obtain ⟨-, -, value, -, -, ends⟩ := leading_number_is_longest " -1.2.3"
    have digits {text : Text} (all : text.all CodePoint.isDecimalDigit = true) : text.Digits :=
      List.all_eq_true.1 all
    have before : ("1" : Text).Digits := digits (by decide)
    have behind : ("2" : Text).Digits := digits (by decide)
    have mantissa : IsMantissa "1.2" := .pointed (by decide) before behind
    exact value _ (ends "-" "1.2" ".3" (Or.inr (Or.inr rfl)) mantissa (.point (by decide))
      (by decide))
  · exact (leading_number_is_longest "e5").2.2.2.1.1 (by decide)

end Opacity

end Dimming
