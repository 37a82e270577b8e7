import Dimming.Color
import Dimming.Proofs.Number.Conversion
import Dimming.Style

/-!
# The channels of a style

A colour of six hexadecimal digits and the alpha channel of an opacity make eight digits, which
are read back pair by pair.
-/

set_option autoImplicit false

namespace Dimming

namespace CodePoint

variable {point : CodePoint} {value : Nat}

def isUpperHexDigit (point : CodePoint) : Bool :=
  point.isAsciiDigit || decide (65 ≤ point.value ∧ point.value ≤ 70)

theorem hex_value_range (hex : point.hexValue? = some value) :
    value < 16 ∧ 48 ≤ point.value ∧ point.value ≤ 102 := by
  unfold hexValue? isAsciiDigit at hex
  simp only [decide_eq_true_eq] at hex
  split_ifs at hex <;> cases hex <;> omega

theorem hex_digit_of_value (hex : point.hexValue? = some value) : point.isHexDigit = true := by
  unfold isHexDigit
  rw [hex]
  rfl

theorem not_space_of_hex (hex : point.hexValue? = some value) : point.isSpace = false := by
  have range := hex_value_range hex
  unfold isSpace
  simp only [Bool.or_eq_false_iff, decide_eq_false_iff_not, beq_eq_false_iff_ne]
  omega

theorem upper_digit : ∀ digit < 16, ((ofDigit digit).toAsciiUpper).isUpperHexDigit = true ∧
    ((ofDigit digit).toAsciiUpper).hexValue? = some digit := by
  decide

end CodePoint

/-- The number that two hexadecimal digits stand for, in either letter case. -/
def pairValue? : Text → Option Nat
  | [high, low] => high.hexValue?.bind fun first => low.hexValue?.map (16 * first + ·)
  | _ => none

theorem pair_value_eq_some_iff {pair : Text} {value : Nat} : pairValue? pair = some value ↔
    ∃ high low first second, pair = [high, low] ∧ high.hexValue? = some first ∧
      low.hexValue? = some second ∧ 16 * first + second = value := by
  constructor
  · intro read
    match pair, read with
    | [high, low], read =>
        obtain ⟨first, one, rest⟩ := Option.bind_eq_some_iff.1 read
        obtain ⟨second, other, same⟩ := Option.map_eq_some_iff.1 rest
        exact ⟨high, low, first, second, rfl, one, other, same⟩
  · rintro ⟨high, low, first, second, rfl, one, other, rfl⟩
    simp [pairValue?, one, other]

/-- A colour of six hexadecimal digits behind a number sign, and the values of its three pairs. -/
structure HexColor (color digits : Text) (red green blue : Nat) : Prop where
  behindSign : color = ('#' : CodePoint) :: digits
  six : digits.length = 6
  reds : pairValue? (digits.take 2) = some red
  greens : pairValue? ((digits.drop 2).take 2) = some green
  blues : pairValue? ((digits.drop 4).take 2) = some blue

theorem pair_value_of_digits {high low : CodePoint} (one : high.isHexDigit = true)
    (other : low.isHexDigit = true) : ∃ value, pairValue? [high, low] = some value := by
  obtain ⟨first, high⟩ := Option.isSome_iff_exists.1 one
  obtain ⟨second, low⟩ := Option.isSome_iff_exists.1 other
  exact ⟨_, pair_value_eq_some_iff.2 ⟨_, _, first, second, rfl, high, low, rfl⟩⟩

namespace Color

theorem hex_parts {color : Text} (hex : isHex color = true) :
    ∃ digits red green blue, HexColor color digits red green blue := by
  match color with
  | sign :: digits =>
      simp only [isHex, Bool.and_eq_true, List.all_eq_true, decide_eq_true_eq, beq_iff_eq] at hex
      obtain ⟨⟨rfl, six⟩, each⟩ := hex
      match digits, six with
      | [a, b, c, d, e, f], _ =>
          simp only [List.forall_mem_cons] at each
          obtain ⟨red, reds⟩ := pair_value_of_digits each.1 each.2.1
          obtain ⟨green, greens⟩ := pair_value_of_digits each.2.2.1 each.2.2.2.1
          obtain ⟨blue, blues⟩ := pair_value_of_digits each.2.2.2.2.1 each.2.2.2.2.2.1
          exact ⟨[a, b, c, d, e, f], red, green, blue, rfl, rfl, reds, greens, blues⟩

theorem valid_cases {color : Text} (valid : isValidText color = true) :
    color = ownColor ∨ ∃ digits red green blue, HexColor color digits red green blue :=
  (Bool.or_eq_true_iff.1 valid).imp of_decide_eq_true hex_parts

end Color

namespace Hexadecimal

variable {high low : CodePoint} {first second : Nat}

theorem digit_value_of_hex (one : high.hexValue? = some first) : digitValue? high = some first := by
  unfold digitValue?
  rw [one]

theorem digits_of_pair (one : high.hexValue? = some first) (other : low.hexValue? = some second) :
    digits? [high, low] = some [first, second] := by
  have apart : low ≠ '_' := CodePoint.ne_of_kind (CodePoint.hex_digit_of_value other) (by decide)
  simp [digits?, apart, digit_value_of_hex one, digit_value_of_hex other]

/-- The second of two digits is no letter x, so the pair has no mark in front. -/
theorem drop_mark_of_pair (other : low.hexValue? = some second) :
    dropMark [high, low] = [high, low] := by
  have digit := CodePoint.hex_digit_of_value other
  have noMark : ¬(low = 'x' ∨ low = 'X') := not_or.2
    ⟨CodePoint.ne_of_kind digit (by decide), CodePoint.ne_of_kind digit (by decide)⟩
  unfold dropMark
  exact if_neg fun marked => noMark marked.2

theorem trim_pair (one : high.hexValue? = some first) (other : low.hexValue? = some second) :
    Text.trimSpace [high, low] = [high, low] := by
  refine Text.trim_bare ⟨List.cons_ne_nil _ _, fun point inside => ?_, fun point inside => ?_⟩
  · cases inside
    exact CodePoint.not_space_of_hex one
  · cases inside
    exact CodePoint.not_space_of_hex other

/-- Two digits are read as they stand: they are no blanks, no sign and no mark. -/
theorem read_pair {pair : Text} {value : Nat} (pairs : pairValue? pair = some value) :
    read pair = .ok (value : Int) := by
  obtain ⟨high, low, first, second, rfl, one, other, rfl⟩ := pair_value_eq_some_iff.1 pairs
  have unsigned : Decimal.readSign [high, low] = (false, [high, low]) :=
    Decimal.read_sign_of_kind (CodePoint.hex_digit_of_value one) (by decide) (by decide)
  unfold read
  rw [trim_pair one other, unsigned]
  dsimp only
  rw [drop_mark_of_pair other, digits_of_pair one other]
  simp [Text.digitsToNat, Nat.mul_comm]

end Hexadecimal

namespace Opacity

variable {opacity : Number} {channel : Nat}

theorem alpha_le (encoded : alpha opacity = .ok channel) : channel ≤ 255 := by
  unfold alpha at encoded
  cases quotient : opacity.divNat 100 with
  | error fault =>
      rw [quotient] at encoded
      cases encoded
  | ok fraction =>
      rw [quotient] at encoded
      simp only [bind, Except.bind] at encoded
      split at encoded
      · cases encoded
      · cases encoded
        exact Nat.min_le_right _ _

theorem alpha_text_pair (small : channel ≤ 255) :
    (alphaText channel).length = 2 ∧ (alphaText channel).all CodePoint.isUpperHexDigit = true ∧
      pairValue? (alphaText channel) = some channel := by
  obtain ⟨first, second, known, written, value⟩ :=
    Text.of_nat_hex_two (show channel < 16 ^ 2 by omega)
  simp only [Text.in_base_cons] at known
  obtain ⟨upper, high⟩ := CodePoint.upper_digit first known.1
  obtain ⟨upper', low⟩ := CodePoint.upper_digit second known.2.1
  unfold alphaText
  rw [written]
  simp [Text.spelled, pairValue?, upper, upper', high, low]
  omega

end Opacity

namespace Style

variable {color digits suffix : Text} {red green blue alpha : Nat}

theorem read_channels_of_pairs (hex : HexColor color digits red green blue)
    (two : suffix.length = 2) (alphas : pairValue? suffix = some alpha) :
    readChannels (color ++ suffix) = .ok ⟨red, green, blue, alpha⟩ := by
  obtain ⟨high, low, first, second, start, one, -, -⟩ := pair_value_eq_some_iff.1 hex.reds
  have dropped : (color ++ suffix).dropWhile (CodePoint.is '#') = digits ++ suffix := by
    have noSign : CodePoint.is '#' high = false :=
      decide_eq_false (CodePoint.ne_of_kind (CodePoint.hex_digit_of_value one) (by decide))
    rw [hex.behindSign, List.cons_append, List.dropWhile_cons_of_pos (by decide)]
    match digits, start with
    | point :: rest, start =>
        cases (List.cons.inj start).1
        exact List.dropWhile_cons_of_neg (by simp [noSign])
  have parts : (digits ++ suffix).take 2 = digits.take 2 ∧
      ((digits ++ suffix).drop 2).take 2 = (digits.drop 2).take 2 ∧
      ((digits ++ suffix).drop 4).take 2 = (digits.drop 4).take 2 ∧
      ((digits ++ suffix).drop 6).take 2 = suffix ∧ 8 ≤ (digits ++ suffix).length := by
    match digits, hex.six, suffix, two with
    | [_, _, _, _, _, _], _, [_, _], _ => exact ⟨rfl, rfl, rfl, rfl, by simp⟩
  obtain ⟨first, second, third, fourth, long⟩ := parts
  unfold readChannels
  rw [dropped]
  dsimp only
  simp only [first, second, third, fourth, if_pos long, Hexadecimal.read_pair hex.reds,
    Hexadecimal.read_pair hex.greens, Hexadecimal.read_pair hex.blues,
    Hexadecimal.read_pair alphas]
  rfl

end Style

end Dimming
