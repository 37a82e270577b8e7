import Dimming.Proofs.Number.Conversion

/-!
# Opacities that are accepted

What a user types is accepted exactly if it is a plain number between nought and a hundred with
blanks around it, or none. Converting it gives that number, unless a blank is among those around it
that the conversion does not take for white space: then there is no number at all.
-/

set_option autoImplicit false

namespace Dimming

namespace Opacity

open Text
open Json (signed)

section Form

variable {text unsigned : Text}

theorem is_plain_number_minus :
    isPlainNumber ('-' :: unsigned) = true ↔
      ∃ whole fraction : Text, whole ≠ [] ∧ whole.Digits ∧ fraction.Digits ∧
        unsigned = pointed whole fraction := by
  constructor
  · intro isPlain
    have parts := List.takeWhile_append_dropWhile (p := CodePoint.isDecimalDigit) (l := unsigned)
    have digits : Digits (unsigned.takeWhile CodePoint.isDecimalDigit) :=
      fun point => List.mem_takeWhile_imp
    unfold isPlainNumber at isPlain
    simp only [if_true] at isPlain
    split at isPlain
    next nothing =>
      rw [nothing, List.append_nil] at parts
      rw [parts] at digits isPlain
      exact ⟨unsigned, [], by simpa using isPlain, digits, by simp [Digits],
        (List.append_nil _).symm⟩
    next point fraction more =>
      simp only [Bool.and_eq_true, Bool.not_eq_true', List.isEmpty_eq_false_iff, decide_eq_true_eq,
        List.all_eq_true] at isPlain
      obtain ⟨⟨⟨given, rfl⟩, filled⟩, behind⟩ := isPlain
      refine ⟨_, fraction, given, digits, behind, ?_⟩
      rw [more] at parts
      unfold pointed
      rw [if_neg (by simpa using filled)]
      exact parts.symm
  · rintro ⟨whole, fraction, given, before, behind, rfl⟩
    unfold isPlainNumber pointed
    simp only [if_true]
    by_cases nothing : fraction = []
    · subst nothing
      rw [List.isEmpty_nil, if_pos rfl, List.append_nil, List.dropWhile_eq_nil_iff.2 before,
        List.takeWhile_eq_self_iff.2 before]
      simpa using given
    · rw [if_neg (by simpa using nothing), List.takeWhile_append_of_pos before,
        List.dropWhile_append_of_pos before]
      have dot : (CodePoint.ofChar '.').isDecimalDigit = false := by decide
      have shape : ofString "." ++ fraction = CodePoint.ofChar '.' :: fraction := rfl
      rw [shape, List.takeWhile_cons_of_neg (by simp [dot]), List.dropWhile_cons_of_neg (by simp [dot]),
        List.append_nil]
      have digits : fraction.all CodePoint.isDecimalDigit = true := List.all_eq_true.2 behind
      simp [given, nothing, digits]

theorem is_plain_number_unsigned {point : CodePoint} {rest : Text} (noMinus : point ≠ '-') :
    isPlainNumber (point :: rest) = isPlainNumber ('-' :: point :: rest) := by
  unfold isPlainNumber
  simp only [if_neg noMinus, if_true]

theorem is_plain_number_iff : isPlainNumber text = true ↔ ∃ plain : PlainNumber, text = plain.text := by
  constructor
  · intro isPlain
    cases text with
    | nil => cases isPlain
    | cons point rest =>
        by_cases minus : point = '-'
        · obtain ⟨whole, fraction, given, before, behind, rfl⟩ :=
            is_plain_number_minus.1 (minus ▸ isPlain)
          exact ⟨⟨true, whole, fraction, given, before, behind⟩, by rw [minus]; rfl⟩
        · rw [is_plain_number_unsigned minus] at isPlain
          obtain ⟨whole, fraction, given, before, behind, same⟩ := is_plain_number_minus.1 isPlain
          exact ⟨⟨false, whole, fraction, given, before, behind⟩, same⟩
  · rintro ⟨plain, rfl⟩
    have isPlain := is_plain_number_minus.2
      ⟨plain.whole, plain.fraction, plain.given, plain.before, plain.behind, rfl⟩
    obtain ⟨point, others, digit, same⟩ := plain.begins
    have noMinus : point ≠ '-' := CodePoint.ne_of_kind digit (by decide)
    change isPlainNumber ('-' :: plain.unsigned) = true at isPlain
    unfold PlainNumber.text signed
    cases plain.negative with
    | true => exact isPlain
    | false =>
        rw [same] at isPlain ⊢
        exact (is_plain_number_unsigned noMinus).trans isPlain

end Form

section Acceptance

variable {plain : PlainNumber} {text : Text}

theorem no_name_of_digit {point : CodePoint} (digit : point.isDecimalDigit = true) (rest : Text) :
    (Text.ofString "Infinity").isPrefixOf (point :: rest) = false := by
  have other : point ≠ 'I' := CodePoint.ne_of_kind digit (by decide)
  have shape : Text.ofString "Infinity" = CodePoint.ofChar 'I' :: Text.ofString "nfinity" := rfl
  rw [shape]
  simp [List.isPrefixOf, other.symm]

theorem leading_number_of_plain (trimmed : text.trimBlanks = plain.text) :
    leadingNumber? text = some plain.toDouble := by
  obtain ⟨before, behind, parts, blanksBefore, blanksBehind⟩ := trim_parts CodePoint.isBlank text
  change text = before ++ (text.trimBlanks ++ behind) at parts
  rw [trimmed] at parts
  have bare : Bare CodePoint.isBlank plain.text := plain.numeric.bare plain.text_ne_nil id
  have ahead : text.dropWhile CodePoint.isBlank = plain.text ++ behind := by
    rw [parts, drop_while_around bare, List.dropWhile_eq_nil_iff.2 blanksBefore, List.nil_append]
  obtain ⟨digit, others, isDigit, same⟩ := plain.begins
  have noName : (Text.ofString "Infinity").isPrefixOf (plain.unsigned ++ behind) = false := by
    rw [same]
    exact no_name_of_digit isDigit _
  have read := plain.read_blanks blanksBehind
  unfold leadingNumber?
  rw [ahead, plain.read_sign behind]
  dsimp only
  rw [noName, if_neg Bool.false_ne_true, read]
  rfl

/-- What is accepted is a plain number between nought and a hundred, with blanks around it. -/
theorem problem_none_iff :
    problem? text = none ↔
      ∃ plain : PlainNumber, text.trimBlanks = plain.text ∧ plain.toDouble.between 0 100 = true := by
  have answered (plain : PlainNumber) (trimmed : text.trimBlanks = plain.text) :
      problem? text = none ↔ plain.toDouble.between 0 100 = true := by
    have leading := leading_number_of_plain trimmed
    have isPlain := is_plain_number_iff.2 ⟨plain, trimmed⟩
    have given : text ≠ [] := by
      rintro rfl
      exact plain.text_ne_nil trimmed.symm
    unfold problem?
    rw [List.isEmpty_eq_false_iff.2 given, leading, isPlain]
    dsimp only [Option.any_some]
    cases plain.toDouble.between 0 100 <;> simp
  constructor
  · intro accepted
    have isPlain : isPlainNumber text.trimBlanks = true := by
      unfold problem? at accepted
      dsimp only at accepted
      split at accepted
      · cases accepted
      · split at accepted
        · assumption
        · cases accepted
    obtain ⟨plain, trimmed⟩ := is_plain_number_iff.1 isPlain
    exact ⟨plain, trimmed, (answered plain trimmed).1 accepted⟩
  · rintro ⟨plain, trimmed, inside⟩
    exact (answered plain trimmed).2 inside

/-- Trimming white space off may leave blanks around a number that the wider trimming removes. -/
theorem trim_space_of_plain (trimmed : text.trimBlanks = plain.text) :
    ∃ ahead after, text.trimSpace = ahead ++ (plain.text ++ after) ∧
      (∀ point ∈ ahead, point.isBlank = true) ∧ ∀ point ∈ after, point.isBlank = true := by
  obtain ⟨before, behind, parts, blanksBefore, blanksBehind⟩ := trim_parts CodePoint.isBlank text
  change text = before ++ (text.trimBlanks ++ behind) at parts
  rw [trimmed] at parts
  have bare : Bare CodePoint.isSpace plain.text :=
    plain.numeric.bare plain.text_ne_nil CodePoint.blank_of_space
  refine ⟨before.dropWhile CodePoint.isSpace, behind.rdropWhile CodePoint.isSpace, ?_, ?_, ?_⟩
  · rw [parts]
    exact trim_around bare before behind
  · exact fun point inside => blanksBefore point ((List.dropWhile_sublist _).mem inside)
  · exact fun point inside => blanksBehind point ((List.rdropWhile_prefix _ _).mem inside)

theorem of_text_of_plain (trimmed : text.trimBlanks = plain.text) :
    Double.ofText? text = if text.trimSpace = text.trimBlanks then some plain.toDouble else none := by
  obtain ⟨ahead, after, around, blanksAhead, blanksAfter⟩ := trim_space_of_plain trimmed
  rw [trimmed]
  by_cases nothing : ahead = []
  · subst nothing
    rw [List.nil_append] at around
    rw [Double.of_text_behind around blanksAfter, around]
    simp
  · have other : text.trimSpace ≠ plain.text := by
      intro same
      have lengths := congrArg List.length (around.symm.trans same)
      have some := List.length_pos_of_ne_nil nothing
      simp only [List.length_append] at lengths
      omega
    rw [Double.of_text_ahead around blanksAhead blanksAfter nothing, if_neg other]

theorem of_text_plain (plain : PlainNumber) : Double.ofText plain.text = .ok plain.toDouble := by
  have blanks : plain.text.trimBlanks = plain.text :=
    trim_bare (plain.numeric.bare plain.text_ne_nil id)
  have space : plain.text.trimSpace = plain.text :=
    trim_bare (plain.numeric.bare plain.text_ne_nil CodePoint.blank_of_space)
  unfold Double.ofText
  rw [of_text_of_plain blanks, space, blanks, if_pos rfl]

theorem accepted_iff :
    problem? text = none ↔
      ∃ plain : PlainNumber, text.trimBlanks = plain.text ∧
        ∃ number, Double.ofText plain.text = .ok number ∧ number.between 0 100 = true := by
  rw [problem_none_iff]
  refine exists_congr fun plain => and_congr_right fun _ => ?_
  rw [of_text_plain]
  constructor
  · exact fun inside => ⟨_, rfl, inside⟩
  · rintro ⟨_, ⟨⟩, inside⟩
    exact inside

/-- What is accepted is converted as if no blank stood around it, or not at all. -/
theorem of_text_accepted (accepted : problem? text = none) :
    Double.ofText text =
      if text.trimSpace = text.trimBlanks then Double.ofText text.trimBlanks
      else .error (.notDecimal text) := by
  obtain ⟨plain, trimmed, -⟩ := problem_none_iff.1 accepted
  have converted := of_text_of_plain trimmed
  rw [trimmed] at converted ⊢
  rw [of_text_plain]
  unfold Double.ofText
  rw [converted]
  by_cases bare : text.trimSpace = plain.text
  · rw [if_pos bare, if_pos bare]
  · rw [if_neg bare, if_neg bare]

end Acceptance

end Opacity

end Dimming
