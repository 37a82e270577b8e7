import Dimming.Proofs.Number.Conversion

/-!
# Numerals at the beginning of a text

What counts as a numeral: an optional sign, and then the name of infinity or digits with a point
among, before or behind them and an optional exponent. Of all the beginnings of a text that are
numerals one is the longest, and it is found by taking what comes next as long as something fits: a
part that does not get complete, such as the mark of an exponent without digits, is left.
-/

set_option autoImplicit false

namespace Dimming

namespace Text

section Grammar

def IsSign (text : Text) : Prop := text = [] ∨ text = "+" ∨ text = "-"

/-- Digits, perhaps with a point behind or among them, or digits behind a point. -/
inductive IsMantissa : Text → Prop
  | whole {digits : Text} (given : digits ≠ []) (known : digits.Digits) : IsMantissa digits
  | pointed {whole fraction : Text} (given : whole ≠ []) (before : whole.Digits)
      (behind : fraction.Digits) : IsMantissa (whole ++ CodePoint.ofChar '.' :: fraction)
  | fraction {fraction : Text} (given : fraction ≠ []) (behind : fraction.Digits) :
      IsMantissa (CodePoint.ofChar '.' :: fraction)

def marksExponent (point : CodePoint) : Bool := point = 'e' || point = 'E'

inductive IsExponent : Text → Prop
  | marked {mark : CodePoint} {sign digits : Text} (marks : marksExponent mark = true)
      (signed : sign.IsSign) (given : digits ≠ []) (known : digits.Digits) :
      IsExponent (mark :: (sign ++ digits))

def infinityName : Text := "Infinity"

/-- A numeral without its sign. -/
inductive IsAmount : Text → Prop
  | infinity : IsAmount infinityName
  | decimal {mantissa exponent : Text} (valued : mantissa.IsMantissa)
      (scaled : exponent = [] ∨ exponent.IsExponent) : IsAmount (mantissa ++ exponent)

def IsNumeral (text : Text) : Prop :=
  ∃ sign amount : Text, sign.IsSign ∧ amount.IsAmount ∧ text = sign ++ amount

/-- The longest beginning of a text that is in a language: all others are beginnings of it. -/
structure IsLongest (language : Text → Prop) (text found : Text) : Prop where
  begins : found <+: text
  fits : language found
  longest : ∀ opening, opening <+: text → language opening → opening <+: found

theorem IsLongest.unique {language : Text → Prop} {text found other : Text}
    (one : IsLongest language text found) (two : IsLongest language text other) : found = other := by
  have within := two.longest found one.begins one.fits
  have around := one.longest other two.begins two.fits
  exact within.eq_of_length (Nat.le_antisymm within.length_le around.length_le)

end Grammar

section Parts

def digitsOf (text : Text) : Text := text.takeWhile CodePoint.isDecimalDigit

def past (part : Text → Text) (text : Text) : Text := text.drop (part text).length

def isSignPoint (point : CodePoint) : Bool := point = '-' || point = '+'

def signOf : Text → Text
  | [] => []
  | point :: _ => if isSignPoint point then [point] else []

/-- A point belongs to a mantissa if there are digits on one side of it. -/
def mantissaOf (text : Text) : Text :=
  match past digitsOf text with
  | [] => digitsOf text
  | point :: behind =>
      if point = '.' ∧ (digitsOf text ≠ [] ∨ digitsOf behind ≠ []) then
        digitsOf text ++ point :: digitsOf behind
      else digitsOf text

def exponentOf : Text → Text
  | [] => []
  | mark :: behind =>
      let digits := digitsOf (past signOf behind)
      if marksExponent mark = true ∧ digits ≠ [] then mark :: (signOf behind ++ digits) else []

def amountOf (text : Text) : Text :=
  if infinityName <+: text then infinityName
  else if mantissaOf text = [] then []
  else mantissaOf text ++ exponentOf (past mantissaOf text)

/-- The numeral that a text begins with; nothing if there is none. -/
def numeralOf (text : Text) : Text :=
  if amountOf (past signOf text) = [] then [] else signOf text ++ amountOf (past signOf text)

theorem part_and_past {part : Text → Text} {text : Text} (begins : part text <+: text) :
    part text ++ past part text = text :=
  List.prefix_iff_eq_append.1 begins

theorem part_extended {part : Text → Text} {text more : Text} (begins : part text <+: text)
    (next : more <+: past part text) : part text ++ more <+: text := by
  have extended := (List.prefix_append_right_inj (part text)).2 next
  rw [part_and_past begins] at extended
  exact extended

theorem past_of_append {part : Text → Text} {opening behind : Text}
    (found : part (opening ++ behind) = opening) : past part (opening ++ behind) = behind := by
  unfold past
  rw [found, List.drop_left]

end Parts

section Digits

variable {digits behind text : Text} {point : CodePoint}

theorem digits_begin (text : Text) : digitsOf text <+: text := List.takeWhile_prefix _

theorem digits_of_known (text : Text) : Digits (digitsOf text) :=
  fun _ inside => List.mem_takeWhile_imp inside

theorem digits_of_append (known : digits.Digits) (behind : Text) :
    digitsOf (digits ++ behind) = digits ++ digitsOf behind :=
  List.takeWhile_append_of_pos known

theorem digits_of_other (other : ∀ point ∈ behind.head?, point.isDecimalDigit = false) :
    digitsOf behind = [] := by
  cases behind with
  | nil => rfl
  | cons point behind => exact List.takeWhile_cons_of_neg (by simp [other point rfl])

theorem digits_of_stopped (known : digits.Digits)
    (stops : ∀ point ∈ behind.head?, point.isDecimalDigit = false) :
    digitsOf (digits ++ behind) = digits := by
  rw [digits_of_append known, digits_of_other stops, List.append_nil]

theorem drop_taken (accepts : CodePoint → Bool) (text : Text) :
    text.drop (text.takeWhile accepts).length = text.dropWhile accepts := by
  have parts := List.prefix_iff_eq_append.1 (List.takeWhile_prefix accepts (l := text))
  exact List.append_cancel_left (parts.trans List.takeWhile_append_dropWhile.symm)

theorem past_digits_head (text : Text) :
    ∀ point ∈ (past digitsOf text).head?, point.isDecimalDigit = false := by
  have dropped : past digitsOf text = text.dropWhile CodePoint.isDecimalDigit := drop_taken _ _
  intro point first
  have refused := List.head?_dropWhile_not CodePoint.isDecimalDigit text
  rw [dropped] at first
  rw [first] at refused
  exact refused

theorem dot_no_digit : (CodePoint.ofChar '.').isDecimalDigit = false := by decide

theorem mark_no_digit (marks : marksExponent point = true) : point.isDecimalDigit = false := by
  unfold marksExponent at marks
  simp only [Bool.or_eq_true, decide_eq_true_eq] at marks
  rcases marks with rfl | rfl <;> decide

theorem mark_no_dot (marks : marksExponent point = true) : point ≠ '.' := by
  rintro rfl
  exact absurd marks (by decide)

theorem digit_no_sign (digit : point.isDecimalDigit = true) : isSignPoint point = false := by
  refine Bool.eq_false_iff.2 fun isSign => ?_
  unfold isSignPoint at isSign
  simp only [Bool.or_eq_true, decide_eq_true_eq] at isSign
  rcases isSign with rfl | rfl <;> exact absurd digit (by decide)

end Digits

section Mantissas

variable {mantissa whole fraction behind text : Text}

theorem mantissa_cases (valued : mantissa.IsMantissa) :
    (mantissa ≠ [] ∧ mantissa.Digits) ∨
      ∃ whole fraction : Text, (whole ≠ [] ∨ fraction ≠ []) ∧ whole.Digits ∧ fraction.Digits ∧
        mantissa = whole ++ CodePoint.ofChar '.' :: fraction := by
  cases valued with
  | whole given known => exact Or.inl ⟨given, known⟩
  | pointed given before behind => exact Or.inr ⟨_, _, Or.inl given, before, behind, rfl⟩
  | fraction given behind =>
      exact Or.inr ⟨[], _, Or.inr given, fun _ absent => absurd absent List.not_mem_nil, behind, rfl⟩

theorem mantissa_of_parts (given : whole ≠ [] ∨ fraction ≠ []) (before : whole.Digits)
    (behind : fraction.Digits) : IsMantissa (whole ++ CodePoint.ofChar '.' :: fraction) := by
  cases whole with
  | nil => exact .fraction (given.resolve_left (absurd rfl)) behind
  | cons point whole => exact .pointed (List.cons_ne_nil _ _) before behind

theorem mantissa_no_point (other : (past digitsOf text).head? ≠ some (CodePoint.ofChar '.')) :
    mantissaOf text = digitsOf text := by
  unfold mantissaOf
  split
  · rfl
  next point behind more =>
    rw [more] at other
    exact if_neg fun parts => other (congrArg some parts.1)

theorem mantissa_at_point (next : past digitsOf text = CodePoint.ofChar '.' :: behind)
    (given : digitsOf text ≠ [] ∨ digitsOf behind ≠ []) :
    mantissaOf text = digitsOf text ++ CodePoint.ofChar '.' :: digitsOf behind := by
  unfold mantissaOf
  rw [next]
  exact if_pos ⟨rfl, given⟩

theorem mantissa_of_bare_point (next : past digitsOf text = CodePoint.ofChar '.' :: behind)
    (before : digitsOf text = []) (none : digitsOf behind = []) : mantissaOf text = [] := by
  unfold mantissaOf
  rw [next, before]
  exact if_neg fun parts => parts.2.elim (absurd rfl) (absurd none)

theorem mantissa_of_whole (known : whole.Digits)
    (stops : ∀ point ∈ behind.head?, point.isDecimalDigit = false ∧ point ≠ '.') :
    mantissaOf (whole ++ behind) = whole := by
  have digits := digits_of_stopped known fun point first => (stops point first).1
  unfold mantissaOf
  rw [past_of_append digits, digits]
  cases behind with
  | nil => rfl
  | cons point behind => exact if_neg fun parts => (stops point rfl).2 parts.1

theorem mantissa_of_pointed (given : whole ≠ [] ∨ fraction ≠ []) (before : whole.Digits)
    (known : fraction.Digits) (behind : Text) :
    mantissaOf (whole ++ CodePoint.ofChar '.' :: (fraction ++ behind)) =
      whole ++ CodePoint.ofChar '.' :: (fraction ++ digitsOf behind) := by
  have filled : whole ≠ [] ∨ fraction ++ digitsOf behind ≠ [] :=
    given.imp_right fun some none => some (List.append_eq_nil_iff.1 none).1
  have stops : ∀ point ∈ (CodePoint.ofChar '.' :: (fraction ++ behind)).head?,
      point.isDecimalDigit = false := by
    rintro point ⟨⟩
    exact dot_no_digit
  have digits := digits_of_stopped before stops
  unfold mantissaOf
  rw [past_of_append digits, digits]
  dsimp only
  rw [digits_of_append known, if_pos ⟨rfl, filled⟩]

theorem digits_begin_mantissa (text : Text) : digitsOf text <+: mantissaOf text := by
  unfold mantissaOf
  split
  · exact List.prefix_refl _
  · split
    · exact List.prefix_append _ _
    · exact List.prefix_refl _

theorem mantissa_begins (text : Text) : mantissaOf text <+: text := by
  unfold mantissaOf
  split
  · exact digits_begin text
  next point behind more =>
    split
    · refine part_extended (digits_begin text) ?_
      rw [more]
      exact List.cons_prefix_cons.2 ⟨rfl, digits_begin behind⟩
    · exact digits_begin text

theorem mantissa_of_is (given : mantissaOf text ≠ []) : (mantissaOf text).IsMantissa := by
  unfold mantissaOf at given ⊢
  split
  next none =>
    rw [none] at given
    exact .whole given (digits_of_known text)
  next point behind more =>
    rw [more] at given
    dsimp only at given
    split
    next parts =>
      obtain ⟨rfl, filled⟩ := parts
      exact mantissa_of_parts filled (digits_of_known text) (digits_of_known behind)
    next other =>
      rw [if_neg other] at given
      exact .whole given (digits_of_known text)

theorem mantissa_longest (valued : mantissa.IsMantissa) (begins : mantissa <+: text) :
    mantissa <+: mantissaOf text := by
  obtain ⟨behind, rfl⟩ := begins
  rcases mantissa_cases valued with ⟨-, known⟩ | ⟨whole, fraction, given, before, known, rfl⟩
  · refine List.IsPrefix.trans ?_ (digits_begin_mantissa _)
    rw [digits_of_append known]
    exact List.prefix_append _ _
  · rw [List.append_assoc, List.cons_append, mantissa_of_pointed given before known]
    exact (List.prefix_append_right_inj _).2
      (List.cons_prefix_cons.2 ⟨rfl, List.prefix_append _ _⟩)

theorem mantissa_of_marked (valued : mantissa.IsMantissa) {mark : CodePoint}
    (marks : marksExponent mark = true) (behind : Text) :
    mantissaOf (mantissa ++ mark :: behind) = mantissa := by
  have stops : ∀ point ∈ (mark :: behind).head?, point.isDecimalDigit = false ∧ point ≠ '.' := by
    rintro point ⟨⟩
    exact ⟨mark_no_digit marks, mark_no_dot marks⟩
  rcases mantissa_cases valued with ⟨-, known⟩ | ⟨whole, fraction, given, before, known, rfl⟩
  · exact mantissa_of_whole known stops
  · rw [List.append_assoc, List.cons_append, mantissa_of_pointed given before known,
      digits_of_other fun point first => (stops point first).1, List.append_nil]

end Mantissas

section Exponents

variable {sign exponent digits behind text : Text} {point : CodePoint}

theorem sign_cases (signed : sign.IsSign) :
    sign = [] ∨ ∃ point, isSignPoint point = true ∧ sign = [point] := by
  rcases signed with rfl | rfl | rfl
  · exact Or.inl rfl
  · exact Or.inr ⟨'+', by decide, rfl⟩
  · exact Or.inr ⟨'-', by decide, rfl⟩

theorem sign_of_is (text : Text) : (signOf text).IsSign := by
  match text with
  | [] => exact Or.inl rfl
  | point :: behind =>
      unfold signOf
      dsimp only
      split
      next isSign =>
        unfold isSignPoint at isSign
        simp only [Bool.or_eq_true, decide_eq_true_eq] at isSign
        rcases isSign with rfl | rfl
        · exact Or.inr (Or.inr rfl)
        · exact Or.inr (Or.inl rfl)
      next => exact Or.inl rfl

theorem sign_begins (text : Text) : signOf text <+: text := by
  match text with
  | [] => exact List.prefix_refl _
  | point :: behind =>
      unfold signOf
      dsimp only
      split
      · exact List.cons_prefix_cons.2 ⟨rfl, List.nil_prefix⟩
      · exact List.nil_prefix

theorem sign_of_append (signed : sign.IsSign)
    (unsigned : ∀ point ∈ behind.head?, isSignPoint point = false) :
    signOf (sign ++ behind) = sign := by
  rcases sign_cases signed with rfl | ⟨point, isSign, rfl⟩
  · cases behind with
    | nil => rfl
    | cons point behind => simp [signOf, unsigned point rfl]
  · simp [signOf, isSign]

theorem sign_of_digits (signed : sign.IsSign) (given : digits ≠ []) (known : digits.Digits)
    (behind : Text) : signOf (sign ++ (digits ++ behind)) = sign := by
  refine sign_of_append signed fun point first => digit_no_sign (known point ?_)
  rw [List.head?_append_of_ne_nil _ given] at first
  exact List.mem_of_mem_head? first

theorem exponent_of_append {mark : CodePoint} (marks : marksExponent mark = true)
    (signed : sign.IsSign) (given : digits ≠ []) (known : digits.Digits) (behind : Text) :
    exponentOf (mark :: (sign ++ (digits ++ behind))) =
      mark :: (sign ++ (digits ++ digitsOf behind)) := by
  have filled : digits ++ digitsOf behind ≠ [] :=
    fun none => given (List.append_eq_nil_iff.1 none).1
  have signOwn := sign_of_digits signed given known behind
  unfold exponentOf
  dsimp only
  rw [past_of_append signOwn, signOwn, digits_of_append known]
  exact if_pos ⟨marks, filled⟩

theorem exponent_longest (scaled : exponent.IsExponent) (begins : exponent <+: text) :
    exponent <+: exponentOf text := by
  obtain ⟨behind, rfl⟩ := begins
  cases scaled with
  | marked marks signed given known =>
      rw [List.cons_append, List.append_assoc, exponent_of_append marks signed given known]
      exact List.cons_prefix_cons.2
        ⟨rfl, (List.prefix_append_right_inj _).2 (List.prefix_append _ _)⟩

theorem exponent_of_is (text : Text) : exponentOf text = [] ∨ (exponentOf text).IsExponent := by
  match text with
  | [] => exact Or.inl rfl
  | mark :: behind =>
      unfold exponentOf
      dsimp only
      split
      next parts => exact Or.inr (.marked parts.1 (sign_of_is behind) parts.2 (digits_of_known _))
      next => exact Or.inl rfl

theorem exponent_begins (text : Text) : exponentOf text <+: text := by
  match text with
  | [] => exact List.prefix_refl _
  | mark :: behind =>
      unfold exponentOf
      dsimp only
      split
      · exact List.cons_prefix_cons.2 ⟨rfl, part_extended (sign_begins behind) (digits_begin _)⟩
      · exact List.nil_prefix

end Exponents

section Amounts

variable {mantissa amount numeral text : Text}

def opensAmount (point : CodePoint) : Bool :=
  point.isDecimalDigit || point = '.' || point = 'I'

theorem opener_no_sign {point : CodePoint} (opens : opensAmount point = true) :
    isSignPoint point = false := by
  unfold opensAmount at opens
  simp only [Bool.or_eq_true, decide_eq_true_eq] at opens
  rcases opens with (digit | rfl) | rfl
  · exact digit_no_sign digit
  · decide
  · decide

theorem sign_no_blank {point : CodePoint} (isSign : isSignPoint point = true) :
    point.isBlank = false := by
  unfold isSignPoint at isSign
  simp only [Bool.or_eq_true, decide_eq_true_eq] at isSign
  rcases isSign with rfl | rfl <;> decide

theorem opener_no_blank {point : CodePoint} (opens : opensAmount point = true) :
    point.isBlank = false := by
  unfold opensAmount at opens
  simp only [Bool.or_eq_true, decide_eq_true_eq] at opens
  rcases opens with (digit | rfl) | rfl
  · exact CodePoint.not_blank_of_digit digit
  · decide
  · decide

theorem mantissa_opens (valued : mantissa.IsMantissa) :
    ∃ point rest, mantissa = point :: rest ∧ opensAmount point = true ∧ point ≠ 'I' := by
  have ofDigit {digits : Text} (given : digits ≠ []) (known : digits.Digits) (behind : Text) :
      ∃ point rest, digits ++ behind = point :: rest ∧ opensAmount point = true ∧ point ≠ 'I' := by
    obtain ⟨point, rest, rfl⟩ := List.exists_cons_of_ne_nil given
    have digit := known point List.mem_cons_self
    refine ⟨point, rest ++ behind, rfl, ?_, CodePoint.ne_of_kind digit (by decide)⟩
    unfold opensAmount
    rw [digit]
    rfl
  cases valued with
  | whole given known =>
      obtain ⟨point, rest, same, opens⟩ := ofDigit given known []
      rw [List.append_nil] at same
      exact ⟨point, rest, same, opens⟩
  | pointed given before behind => exact ofDigit given before _
  | fraction given behind => exact ⟨_, _, rfl, by decide, by decide⟩

theorem mantissa_ne_nil (valued : mantissa.IsMantissa) : mantissa ≠ [] := by
  obtain ⟨point, rest, rfl, -⟩ := mantissa_opens valued
  exact List.cons_ne_nil _ _

theorem amount_opens (counted : amount.IsAmount) :
    ∃ point rest, amount = point :: rest ∧ opensAmount point = true := by
  cases counted with
  | infinity => exact ⟨_, _, rfl, by decide⟩
  | decimal valued scaled =>
      obtain ⟨point, rest, rfl, opens, -⟩ := mantissa_opens valued
      exact ⟨point, _, rfl, opens⟩

theorem amount_ne_nil (counted : amount.IsAmount) : amount ≠ [] := by
  obtain ⟨point, rest, rfl, -⟩ := amount_opens counted
  exact List.cons_ne_nil _ _

theorem no_infinity_of_mantissa (valued : mantissa.IsMantissa) (begins : mantissa <+: text) :
    ¬infinityName <+: text := by
  obtain ⟨point, rest, rfl, -, other⟩ := mantissa_opens valued
  obtain ⟨behind, rfl⟩ := begins
  intro named
  exact other (List.cons_prefix_cons.1 named).1.symm

theorem amount_of_mantissa (given : mantissaOf text ≠ []) :
    amountOf text = mantissaOf text ++ exponentOf (past mantissaOf text) := by
  have unnamed := no_infinity_of_mantissa (mantissa_of_is given) (mantissa_begins text)
  unfold amountOf
  rw [if_neg unnamed, if_neg given]

theorem amount_begins (text : Text) : amountOf text <+: text := by
  unfold amountOf
  split
  next named => exact named
  next =>
    split
    · exact List.nil_prefix
    · exact part_extended (mantissa_begins text) (exponent_begins _)

theorem amount_of_is (given : amountOf text ≠ []) : (amountOf text).IsAmount := by
  unfold amountOf at given ⊢
  split
  next => exact .infinity
  next unnamed =>
    rw [if_neg unnamed] at given
    split
    next none => exact absurd (if_pos none) given
    next valued => exact .decimal (mantissa_of_is valued) (exponent_of_is _)

theorem amount_of_other {point : CodePoint} (other : ¬opensAmount point = true) (behind : Text) :
    amountOf (point :: behind) = [] := by
  by_contra given
  obtain ⟨opener, rest, same, opens⟩ := amount_opens (amount_of_is given)
  have begins := amount_begins (point :: behind)
  rw [same] at begins
  obtain ⟨rfl, -⟩ := List.cons_prefix_cons.1 begins
  exact other opens

theorem amount_longest (counted : amount.IsAmount) (begins : amount <+: text) :
    amount <+: amountOf text := by
  cases counted with
  | infinity =>
      unfold amountOf
      rw [if_pos begins]
  | @decimal mantissa exponent valued scaled =>
      have first : mantissa <+: text := (List.prefix_append _ _).trans begins
      have within := mantissa_longest valued first
      have given : mantissaOf text ≠ [] := by
        obtain ⟨point, rest, rfl, -⟩ := mantissa_opens valued
        intro none
        rw [none] at within
        exact absurd (List.prefix_nil.1 within) (List.cons_ne_nil _ _)
      rw [amount_of_mantissa given]
      rcases scaled with rfl | scaled
      · rw [List.append_nil]
        exact within.trans (List.prefix_append _ _)
      · obtain ⟨behind, rfl⟩ := begins
        -- Behind a mantissa with an exponent there is no choice of where the mantissa ends.
        have complete : mantissaOf (mantissa ++ (exponent ++ behind)) = mantissa := by
          cases scaled with
          | marked marks signed given known => exact mantissa_of_marked valued marks _
        rw [List.append_assoc, past_of_append complete, complete]
        exact (List.prefix_append_right_inj _).2
          (exponent_longest scaled (List.prefix_append _ _))

theorem numeral_longest (counted : numeral.IsNumeral) (begins : numeral <+: text) :
    numeral <+: numeralOf text ∧ numeralOf text ≠ [] := by
  obtain ⟨sign, amount, signed, counted, rfl⟩ := counted
  obtain ⟨behind, rfl⟩ := begins
  have signOwn : signOf (sign ++ (amount ++ behind)) = sign := by
    refine sign_of_append signed fun point first => ?_
    obtain ⟨opener, rest, rfl, opens⟩ := amount_opens counted
    obtain rfl := Option.some.inj first
    exact opener_no_sign opens
  have within := amount_longest counted (List.prefix_append amount behind)
  have given : amountOf (amount ++ behind) ≠ [] := by
    intro none
    rw [none] at within
    exact amount_ne_nil counted (List.prefix_nil.1 within)
  unfold numeralOf
  rw [List.append_assoc, past_of_append signOwn, signOwn, if_neg given]
  exact ⟨(List.prefix_append_right_inj _).2 within,
    fun none => given (List.append_eq_nil_iff.1 none).2⟩

theorem numeral_opens (counted : numeral.IsNumeral) :
    ∃ point rest, numeral = point :: rest ∧ point.isBlank = false := by
  obtain ⟨sign, amount, signed, counted, rfl⟩ := counted
  rcases sign_cases signed with rfl | ⟨point, isSign, rfl⟩
  · obtain ⟨point, rest, rfl, opens⟩ := amount_opens counted
    exact ⟨point, rest, rfl, opener_no_blank opens⟩
  · exact ⟨point, amount, rfl, sign_no_blank isSign⟩

theorem numeral_of_amount (given : numeralOf text ≠ []) :
    amountOf (past signOf text) ≠ [] ∧
      numeralOf text = signOf text ++ amountOf (past signOf text) := by
  unfold numeralOf at given ⊢
  split at given
  next => exact absurd rfl given
  next some => exact ⟨some, if_neg some⟩

/-- What is taken from the beginning of a text is the longest numeral there is. -/
theorem numeral_of_longest (given : numeralOf text ≠ []) :
    IsLongest IsNumeral text (numeralOf text) where
  begins := by
    obtain ⟨-, same⟩ := numeral_of_amount given
    rw [same]
    exact part_extended (sign_begins text) (amount_begins _)
  fits := by
    obtain ⟨some, same⟩ := numeral_of_amount given
    exact ⟨_, _, sign_of_is text, amount_of_is some, same⟩
  longest := fun _ begins counted => (numeral_longest counted begins).1

theorem numeral_of_nil_iff :
    numeralOf text = [] ↔ ∀ opening, opening <+: text → ¬IsNumeral opening := by
  constructor
  · intro none opening begins counted
    exact (numeral_longest counted begins).2 none
  · intro never
    by_contra given
    have found := numeral_of_longest given
    exact never _ found.begins found.fits

theorem no_exponent_of_nil (none : exponentOf text = []) :
    ∀ opening, opening <+: text → ¬IsExponent opening := by
  intro opening begins scaled
  have within := exponent_longest scaled begins
  rw [none] at within
  obtain rfl := List.prefix_nil.1 within
  cases scaled

/-- What ends a numeral behind its mantissa although it looks as if it went on. -/
inductive EndsMantissa (mantissa : Text) : Text → Prop
  | mark {mark : CodePoint} {rest : Text} (marks : marksExponent mark = true)
      (incomplete : ∀ opening, opening <+: mark :: rest → ¬IsExponent opening) :
      EndsMantissa mantissa (mark :: rest)
  | point {rest : Text} (pointed : CodePoint.ofChar '.' ∈ mantissa) :
      EndsMantissa mantissa (CodePoint.ofChar '.' :: rest)

theorem mantissa_of_ended (valued : mantissa.IsMantissa) {behind : Text}
    (ended : EndsMantissa mantissa behind) : mantissaOf (mantissa ++ behind) = mantissa := by
  cases ended with
  | mark marks incomplete => exact mantissa_of_marked valued marks _
  | @point rest pointed =>
      rcases mantissa_cases valued with ⟨-, known⟩ | ⟨whole, fraction, given, before, known, rfl⟩
      · exact absurd ((known _ pointed).symm.trans dot_no_digit) (by decide)
      · have stops : ∀ point ∈ (CodePoint.ofChar '.' :: rest : Text).head?,
            point.isDecimalDigit = false := by
          rintro point ⟨⟩
          exact dot_no_digit
        rw [List.append_assoc, List.cons_append, mantissa_of_pointed given before known,
          digits_of_other stops, List.append_nil]

theorem exponent_of_ended {behind : Text} (ended : EndsMantissa mantissa behind) :
    exponentOf behind = [] := by
  rcases exponent_of_is behind with none | scaled
  · exact none
  · cases ended with
    | mark marks incomplete => exact absurd scaled (incomplete _ (exponent_begins _))
    | point pointed =>
        unfold exponentOf
        exact if_neg fun parts => mark_no_dot parts.1 rfl

theorem numeral_of_ended {sign behind : Text} (signed : sign.IsSign) (valued : mantissa.IsMantissa)
    (ended : EndsMantissa mantissa behind) :
    numeralOf (sign ++ (mantissa ++ behind)) = sign ++ mantissa := by
  have given := mantissa_ne_nil valued
  have signOwn : signOf (sign ++ (mantissa ++ behind)) = sign := by
    refine sign_of_append signed fun point first => ?_
    obtain ⟨opener, rest, rfl, opens, -⟩ := mantissa_opens valued
    obtain rfl := Option.some.inj first
    exact opener_no_sign opens
  have complete := mantissa_of_ended valued ended
  have amount : amountOf (mantissa ++ behind) = mantissa := by
    rw [amount_of_mantissa (by rw [complete]; exact given), past_of_append complete, complete,
      exponent_of_ended ended, List.append_nil]
  unfold numeralOf
  rw [past_of_append signOwn, signOwn, amount, if_neg given]

end Amounts

end Text

end Dimming
