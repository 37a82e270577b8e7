import Dimming.Number.Decimal
import Mathlib.Data.Nat.Digits.Lemmas

/-!
# Numerals

A number is written by its digits, the most significant first, and the digits give the number
back. Leading noughts change nothing, a numeral has none, and its length tells the size of the
number.
-/

set_option autoImplicit false

namespace Dimming

namespace Text

variable {base value : Nat}

/-- The digits of a number, of which there is at least one. -/
def numeral (base value : Nat) : List Nat :=
  if value = 0 then [0] else (Nat.digits base value).reverse

def spelled (digits : List Nat) : Text := digits.map CodePoint.ofDigit

def InBase (base : Nat) (digits : List Nat) : Prop := ∀ digit ∈ digits, digit < base

section Digits

@[simp]
theorem in_base_nil (base : Nat) : InBase base [] := fun _ none => absurd none List.not_mem_nil

@[simp]
theorem in_base_cons {digit : Nat} {digits : List Nat} :
    InBase base (digit :: digits) ↔ digit < base ∧ InBase base digits :=
  List.forall_mem_cons

@[simp]
theorem in_base_append {digits others : List Nat} :
    InBase base (digits ++ others) ↔ InBase base digits ∧ InBase base others :=
  List.forall_mem_append

theorem in_base_noughts (some : 0 < base) (count : Nat) : InBase base (List.replicate count 0) := by
  intro digit inside
  rw [List.eq_of_mem_replicate inside]
  exact some

end Digits

section Values

theorem digits_to_nat_eq (base : Nat) (digits : List Nat) :
    digitsToNat base digits = Nat.ofDigits base digits.reverse := by
  unfold digitsToNat
  rw [Nat.ofDigits_eq_foldr, List.foldr_reverse]
  congr 1
  funext value digit
  rw [Nat.add_comm, Nat.mul_comm]
  rfl

theorem digits_to_nat_append (base : Nat) (digits others : List Nat) :
    digitsToNat base (digits ++ others) =
      digitsToNat base digits * base ^ others.length + digitsToNat base others := by
  rw [digits_to_nat_eq, digits_to_nat_eq, digits_to_nat_eq, List.reverse_append,
    Nat.ofDigits_append, List.length_reverse, Nat.add_comm, Nat.mul_comm]

theorem digits_to_nat_cons (base digit : Nat) (digits : List Nat) :
    digitsToNat base (digit :: digits) =
      digit * base ^ digits.length + digitsToNat base digits := by
  have single : digitsToNat base [digit] = digit := by simp [digitsToNat]
  rw [← List.singleton_append, digits_to_nat_append, single]

@[simp]
theorem digits_to_nat_noughts (base count : Nat) :
    digitsToNat base (List.replicate count 0) = 0 := by
  induction count with
  | zero => rfl
  | succ count ih => simp [List.replicate_succ, digits_to_nat_cons, ih]

theorem digits_to_nat_lt (many : 1 < base) {digits : List Nat} (known : InBase base digits) :
    digitsToNat base digits < base ^ digits.length := by
  rw [digits_to_nat_eq, ← List.length_reverse]
  apply Nat.ofDigits_lt_base_pow_length many
  intro digit inside
  exact known digit (List.mem_reverse.1 inside)

theorem pow_le_digits_to_nat {digit : Nat} (some : digit ≠ 0) (base : Nat) (digits : List Nat) :
    base ^ digits.length ≤ digitsToNat base (digit :: digits) := by
  rw [digits_to_nat_cons]
  have positive : 1 ≤ digit := Nat.one_le_iff_ne_zero.2 some
  have scaled := Nat.mul_le_mul_right (base ^ digits.length) positive
  omega

end Values

section Numerals

theorem numeral_of_lt (small : value < base) : numeral base value = [value] := by
  unfold numeral
  split
  next zero => rw [zero]
  next some => rw [Nat.digits_of_lt base value some small, List.reverse_singleton]

theorem numeral_of_le (many : 1 < base) (large : base ≤ value) :
    numeral base value = numeral base (value / base) ++ [value % base] := by
  have some : value ≠ 0 := by omega
  have more : value / base ≠ 0 := by
    have positive := Nat.div_pos large (Nat.lt_of_succ_lt many)
    omega
  unfold numeral
  rw [if_neg some, if_neg more, Nat.digits_def' many (Nat.pos_of_ne_zero some),
    List.reverse_cons]

theorem push_digits_eq (many : 1 < base) {fuel : Nat} (enough : value < fuel) (rest : Text) :
    pushDigits base fuel value rest = spelled (numeral base value) ++ rest := by
  induction fuel generalizing value rest with
  | zero => exact absurd enough (Nat.not_lt_zero value)
  | succ fuel ih =>
      rw [pushDigits]
      by_cases small : value < base
      · rw [Nat.div_eq_of_lt small, if_pos rfl, Nat.mod_eq_of_lt small, numeral_of_lt small]
        rfl
      · have large := Nat.le_of_not_lt small
        have positive := Nat.div_pos large (Nat.lt_of_succ_lt many)
        have smaller : value / base < value := Nat.div_lt_self (by omega) many
        rw [if_neg (by omega), ih (by omega), numeral_of_le many large]
        simp [spelled]

theorem of_nat_in_base_eq (many : 1 < base) (value : Nat) :
    ofNatInBase base value = spelled (numeral base value) := by
  unfold ofNatInBase
  rw [push_digits_eq many (Nat.lt_succ_self value), List.append_nil]

theorem of_nat_eq (value : Nat) : ofNat value = spelled (numeral 10 value) :=
  of_nat_in_base_eq (by decide) value

theorem numeral_in_base (many : 1 < base) (value : Nat) : InBase base (numeral base value) := by
  unfold numeral
  split
  · intro digit inside
    rw [List.mem_singleton.1 inside]
    exact Nat.lt_of_succ_lt many
  · intro digit inside
    exact Nat.digits_lt_base many (List.mem_reverse.1 inside)

@[simp]
theorem digits_to_nat_numeral (base value : Nat) : digitsToNat base (numeral base value) = value := by
  unfold numeral
  split
  next zero => rw [zero]; simp [digitsToNat]
  next => rw [digits_to_nat_eq, List.reverse_reverse, Nat.ofDigits_digits]

theorem numeral_begins (base value : Nat) :
    numeral base value = [0] ∧ value = 0 ∨
      ∃ digit digits, digit ≠ 0 ∧ numeral base value = digit :: digits := by
  by_cases zero : value = 0
  · exact Or.inl ⟨if_pos zero, zero⟩
  · have some : Nat.digits base value ≠ [] := Nat.digits_ne_nil_iff_ne_zero.2 zero
    have last := Nat.getLast_digit_ne_zero base zero
    refine Or.inr ⟨_, ((Nat.digits base value).reverse).tail, last, ?_⟩
    unfold numeral
    rw [if_neg zero, ← List.head_reverse (by simpa using some), List.cons_head_tail]

/-- Decimal digits that stand for a whole number, without a superfluous nought in front. -/
structure Whole (digits : List Nat) : Prop where
  known : InBase 10 digits
  begins : digits = [0] ∨ ∃ digit others, digit ≠ 0 ∧ digits = digit :: others

theorem whole_numeral (value : Nat) : Whole (numeral 10 value) where
  known := numeral_in_base (by decide) value
  begins := (numeral_begins 10 value).imp_left And.left

theorem Whole.first {digits : List Nat} (whole : Whole digits) :
    ∃ digit < 10, ∃ others, digits = digit :: others := by
  rcases whole.begins with rfl | ⟨digit, others, -, rfl⟩
  · exact ⟨0, by decide, [], rfl⟩
  · exact ⟨digit, (in_base_cons.1 whole.known).1, others, rfl⟩

theorem numeral_ne_nil (base value : Nat) : numeral base value ≠ [] := by
  rcases numeral_begins base value with ⟨same, -⟩ | ⟨digit, digits, -, same⟩ <;> simp [same]

theorem length_numeral_le (many : 1 < base) {places : Nat} (small : value < base ^ (places + 1)) :
    (numeral base value).length ≤ places + 1 := by
  unfold numeral
  split
  · simp
  · rw [List.length_reverse]
    exact (Nat.digits_length_le_iff many value).2 small

theorem length_of_nat (value : Nat) : (ofNat value).length = (numeral 10 value).length := by
  rw [of_nat_eq, spelled, List.length_map]

theorem of_nat_injective : Function.Injective ofNat := by
  have told : ∀ digit < 10, (CodePoint.ofDigit digit).asciiDecimalValue? = some digit := by decide
  have read (value : Nat) : (ofNat value).filterMap CodePoint.asciiDecimalValue? =
      numeral 10 value := by
    rw [of_nat_eq, spelled, List.filterMap_map]
    apply Eq.trans (List.filterMap_congr fun digit inside =>
      told digit (numeral_in_base (by decide) value digit inside))
    exact List.filterMap_some
  intro first second same
  rw [← digits_to_nat_numeral 10 first, ← read, same, read, digits_to_nat_numeral]

theorem pow_le_of_places {places : Nat} (some : value ≠ 0)
    (same : (ofNat value).length = places + 1) : 10 ^ places ≤ value := by
  rw [length_of_nat] at same
  rcases numeral_begins 10 value with ⟨-, zero⟩ | ⟨digit, digits, leading, begins⟩
  · exact absurd zero some
  · have bound := pow_le_digits_to_nat leading 10 digits
    rw [begins, List.length_cons, Nat.succ_inj] at same
    rwa [← begins, digits_to_nat_numeral, same] at bound

theorem lt_pow_places (value : Nat) : value < 10 ^ (ofNat value).length := by
  have known : InBase 10 (numeral 10 value) := numeral_in_base (by decide) value
  have bound := digits_to_nat_lt (by decide) known
  rwa [digits_to_nat_numeral, ← length_of_nat] at bound

end Numerals

section Padding

@[simp]
theorem digits_to_nat_padded (base count : Nat) (digits : List Nat) :
    digitsToNat base (List.replicate count 0 ++ digits) = digitsToNat base digits := by
  rw [digits_to_nat_append, digits_to_nat_noughts, Nat.zero_mul, Nat.zero_add]

theorem pad_left_spelled (width : Nat) (digits : List Nat) :
    padLeft width '0' (spelled digits) =
      spelled (List.replicate (width - digits.length) 0 ++ digits) := by
  unfold padLeft spelled
  rw [List.map_append, List.map_replicate, List.length_map]
  rfl

theorem of_nat_hex_spelled {places value : Nat} (small : value < 16 ^ (places + 1)) :
    ∃ digits, digits.length = places + 1 ∧ InBase 16 digits ∧
      ofNatHex (places + 1) value = spelled digits ∧ digitsToNat 16 digits = value := by
  have short := length_numeral_le (by decide) small
  refine ⟨List.replicate (places + 1 - (numeral 16 value).length) 0 ++ numeral 16 value, ?_,
    in_base_append.2 ⟨in_base_noughts (by decide) _, numeral_in_base (by decide) value⟩, ?_, ?_⟩
  · rw [List.length_append, List.length_replicate]
    omega
  · unfold ofNatHex
    rw [of_nat_in_base_eq (by decide), pad_left_spelled]
  · rw [digits_to_nat_padded, digits_to_nat_numeral]

theorem of_nat_hex_four {unit : Nat} (small : unit < 16 ^ 4) :
    ∃ first second third fourth, InBase 16 [first, second, third, fourth] ∧
      ofNatHex 4 unit = spelled [first, second, third, fourth] ∧
      ((first * 16 + second) * 16 + third) * 16 + fourth = unit := by
  obtain ⟨digits, length, known, written, value⟩ := of_nat_hex_spelled small
  obtain ⟨first, second, third, fourth, rfl⟩ := List.length_eq_four.1 length
  refine ⟨first, second, third, fourth, known, written, ?_⟩
  rw [← value]
  simp [digitsToNat]

theorem of_nat_hex_two {byte : Nat} (small : byte < 16 ^ 2) :
    ∃ first second, InBase 16 [first, second] ∧ ofNatHex 2 byte = spelled [first, second] ∧
      first * 16 + second = byte := by
  obtain ⟨digits, length, known, written, value⟩ := of_nat_hex_spelled small
  obtain ⟨first, second, rfl⟩ := List.length_eq_two.1 length
  refine ⟨first, second, known, written, ?_⟩
  rw [← value]
  simp [digitsToNat]

end Padding

end Text

end Dimming
