import Dimming.Text.Blank
import Dimming.Text.Digit
import Mathlib.Data.List.DropRight

/-!
# Trimmed texts

A text stands between what is trimmed off it. What begins and ends with a point of another kind
stays as it is, whatever is trimmed around it, and digits are such points: none is a blank.
-/

set_option autoImplicit false

namespace Dimming

namespace CodePoint

variable {point : CodePoint}

theorem blank_of_space (space : point.isSpace = true) : point.isBlank = true :=
  Bool.or_eq_true_iff.2 (Or.inl space)

theorem digit_cases (digit : point.isDecimalDigit = true) :
    point.isAsciiDigit = true ∨
      ∃ first ∈ decimalZeros, ∃ offset < 10, ofNat? (first + offset) = some point := by
  unfold isDecimalDigit decimalValue? at digit
  split at digit
  next =>
      split at digit
      next ascii => exact Or.inl ascii
      next => cases digit
  next =>
      rw [Option.isSome_map, List.find?_isSome] at digit
      obtain ⟨first, inside, within⟩ := digit
      rw [decide_eq_true_eq] at within
      refine Or.inr ⟨first, inside, point.value - first, by omega, ?_⟩
      rw [Nat.add_sub_cancel' within.1]
      exact dif_pos point.value_lt

theorem scripts_not_blank : ∀ first ∈ decimalZeros, ∀ offset < 10,
    ∀ point ∈ ofNat? (first + offset), point.isBlank = false := by
  decide +kernel

theorem not_blank_of_digit (digit : point.isDecimalDigit = true) : point.isBlank = false := by
  rcases digit_cases digit with ascii | ⟨first, inside, offset, below, same⟩
  · unfold isAsciiDigit at ascii
    unfold isBlank isSpace
    rw [decide_eq_true_eq] at ascii
    simp only [Bool.or_eq_false_iff, decide_eq_false_iff_not, beq_eq_false_iff_ne]
    omega
  · exact scripts_not_blank first inside offset below point same

end CodePoint

namespace Text

variable {dropped : CodePoint → Bool} {inner : Text}

/-- A text with something in it that begins and ends with points that are not trimmed off. -/
structure Bare (dropped : CodePoint → Bool) (text : Text) : Prop where
  some : text ≠ []
  first : ∀ point ∈ text.head?, dropped point = false
  last : ∀ point ∈ text.getLast?, dropped point = false

theorem drop_while_append (some : inner ≠ []) (first : ∀ point ∈ inner.head?, dropped point = false)
    (before : Text) :
    (before ++ inner).dropWhile dropped = before.dropWhile dropped ++ inner := by
  induction before with
  | nil =>
      cases inner with
      | nil => exact absurd rfl some
      | cons point rest => exact List.dropWhile_cons_of_neg (by simp [first point rfl])
  | cons point before ih =>
      rw [List.cons_append, List.dropWhile_cons, List.dropWhile_cons, ih]
      split <;> rfl

theorem drop_while_around (bare : Bare dropped inner) (before behind : Text) :
    (before ++ (inner ++ behind)).dropWhile dropped =
      before.dropWhile dropped ++ (inner ++ behind) := by
  refine drop_while_append (by simp [bare.some]) (fun point inside => ?_) before
  rw [List.head?_append_of_ne_nil _ bare.some] at inside
  exact bare.first point inside

theorem trim_around (bare : Bare dropped inner) (before behind : Text) :
    trim dropped (before ++ (inner ++ behind)) =
      before.dropWhile dropped ++ (inner ++ behind.rdropWhile dropped) := by
  have back : (behind.reverse ++ (before.dropWhile dropped ++ inner).reverse).dropWhile dropped =
      behind.reverse.dropWhile dropped ++ (before.dropWhile dropped ++ inner).reverse := by
    refine drop_while_append (by simp [bare.some]) (fun point inside => ?_) behind.reverse
    rw [List.head?_reverse, List.getLast?_append_of_ne_nil _ bare.some] at inside
    exact bare.last point inside
  unfold trim
  rw [drop_while_around bare, ← List.append_assoc, List.reverse_append, back, List.reverse_append,
    List.reverse_reverse, List.append_assoc]
  rfl

theorem trim_bare (bare : Bare dropped inner) : trim dropped inner = inner := by
  have around := trim_around bare [] []
  simpa using around

theorem trim_parts (dropped : CodePoint → Bool) (text : Text) :
    ∃ before behind, text = before ++ (trim dropped text ++ behind) ∧
      (∀ point ∈ before, dropped point = true) ∧ ∀ point ∈ behind, dropped point = true := by
  refine ⟨text.takeWhile dropped, (text.dropWhile dropped).rtakeWhile dropped, ?_,
    fun point => List.mem_takeWhile_imp, fun point => List.mem_rtakeWhile_imp⟩
  have split : (text.dropWhile dropped).rdropWhile dropped ++
      (text.dropWhile dropped).rtakeWhile dropped = text.dropWhile dropped :=
    List.rdropWhile_append_rtakeWhile
  change text = text.takeWhile dropped ++
    ((text.dropWhile dropped).rdropWhile dropped ++ (text.dropWhile dropped).rtakeWhile dropped)
  rw [split, List.takeWhile_append_dropWhile]

end Text

end Dimming
