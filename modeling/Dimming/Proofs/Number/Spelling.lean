import Dimming.Proofs.Number.Rounding
import Mathlib.Data.List.DropRight

/-!
# Spelling of floating-point numbers

A positive number is written by the digits of its shortest decimal, in one of four layouts. All of
them are digits with a point or an exponent among them, and what these denote is the same in each:
the value of the digits times a power of ten. So what is written converts back to the number.
-/

set_option autoImplicit false

namespace Dimming

open Text

namespace Decimal

section Reading

variable {digit? : CodePoint → Option Nat} {rest : Text}

def ReadsDigits (digit? : CodePoint → Option Nat) : Prop :=
  ∀ digit < 10, digit? (CodePoint.ofDigit digit) = some digit

theorem ascii_reads_digits : ReadsDigits CodePoint.asciiDecimalValue? := by
  unfold ReadsDigits
  decide

/-- Nothing that could be taken for one more digit comes first. -/
def NoDigit (digit? : CodePoint → Option Nat) (text : Text) : Prop :=
  ∀ point ∈ text.head?, digit? point = none

theorem read_digits_of_none (stops : NoDigit digit? rest) : readDigits digit? rest = ([], rest) := by
  cases rest with
  | nil => rfl
  | cons point rest =>
      have refused : digit? point = none := stops point rfl
      simp [readDigits, refused]

theorem read_digits_spelled (reads : ReadsDigits digit?) {digits : List Nat}
    (known : InBase 10 digits) (stops : NoDigit digit? rest) :
    readDigits digit? (spelled digits ++ rest) = (digits, rest) := by
  induction digits with
  | nil => exact read_digits_of_none stops
  | cons digit digits ih =>
      have more := ih fun other inside => known other (List.mem_cons_of_mem _ inside)
      have read := reads digit (known digit List.mem_cons_self)
      unfold spelled at more ⊢
      simp [readDigits, read, more]

theorem exponent_text_spec (exponent : Int) :
    ∃ digits, InBase 10 digits ∧ digits ≠ [] ∧ digitsToNat 10 digits = exponent.natAbs ∧
      ∀ rest, readSign (Double.exponentText exponent ++ rest) =
        (decide (exponent < 0), spelled digits ++ rest) := by
  refine ⟨List.replicate (2 - (numeral 10 exponent.natAbs).length) 0 ++
    numeral 10 exponent.natAbs, ?_, ?_, ?_, fun rest => ?_⟩
  · exact in_base_append.2
      ⟨in_base_noughts (by decide) _, numeral_in_base (by decide) _⟩
  · simp [numeral_ne_nil]
  · rw [digits_to_nat_padded, digits_to_nat_numeral]
  · unfold Double.exponentText
    rw [of_nat_eq, pad_left_spelled]
    by_cases negative : exponent < 0
    · rw [if_pos negative, decide_eq_true negative]
      rfl
    · rw [if_neg negative, decide_eq_false negative]
      rfl

theorem read_exponent_text (reads : ReadsDigits digit?) (exponent : Int)
    (stops : NoDigit digit? rest) :
    readExponent digit? ("e" ++ Double.exponentText exponent ++ rest) = some (exponent, rest) := by
  obtain ⟨digits, known, some, value, signed⟩ := exponent_text_spec exponent
  have read := read_digits_spelled reads known stops
  have marked : Text.ofString "e" ++ Double.exponentText exponent ++ rest =
      CodePoint.ofChar 'e' :: (Double.exponentText exponent ++ rest) := rfl
  have isMark : (CodePoint.ofChar 'e' = 'e' || CodePoint.ofChar 'e' = 'E') = true := by decide
  rw [marked]
  unfold readExponent
  dsimp only
  rw [if_pos isMark, signed, read]
  cases digits with
  | nil => exact absurd rfl some
  | cons digit digits =>
      have back : (if decide (exponent < 0) = true then -(exponent.natAbs : Int)
          else exponent.natAbs) = exponent := by
        split
        next negative =>
          rw [decide_eq_true_eq] at negative
          omega
        next positive =>
          rw [decide_eq_true_eq] at positive
          omega
      dsimp only
      rw [value, back]

theorem read_exponent_none {text : Text}
    (unmarked : ∀ point ∈ text.head?, point ≠ 'e' ∧ point ≠ 'E') :
    readExponent digit? text = none := by
  cases text with
  | nil => rfl
  | cons point rest =>
      have other := unmarked point rfl
      simp [readExponent, other.1, other.2]

end Reading

/-- The power of ten that the first digit stands for. -/
def firstPlace (decimal : Decimal) : Int :=
  decimal.exponent + (Text.ofNat decimal.coefficient).length - 1

end Decimal

/-- A floating-point number as it is written: digits, further ones behind a point, and an exponent,
of which one may be missing. -/
structure Spelling where
  whole : List Nat
  fraction : List Nat
  exponent : Option Int
  proper : Whole whole
  known : InBase 10 fraction
  marked : fraction ≠ [] ∨ exponent ≠ none

namespace Spelling

def fractionPart (spelling : Spelling) : Text :=
  if spelling.fraction.isEmpty then [] else Text.ofString "." ++ spelled spelling.fraction

def exponentPart (spelling : Spelling) : Text :=
  match spelling.exponent with
  | none => []
  | some exponent => Text.ofString "e" ++ Double.exponentText exponent

def text (spelling : Spelling) : Text :=
  spelled spelling.whole ++ (spelling.fractionPart ++ spelling.exponentPart)

def decimal (spelling : Spelling) : Decimal :=
  .ofDigits spelling.whole spelling.fraction (spelling.exponent.getD 0)

/-- The decimal is worth some digits times a power of ten, though it may have more digits up to
the first place behind the point. -/
def Denotes (spelling : Spelling) (digits : List Nat) (power : Int) : Prop :=
  ∃ more : Nat, spelling.decimal.coefficient = digitsToNat 10 digits * 10 ^ more ∧
    spelling.decimal.exponent + more = power ∧ (more = 0 ∨ spelling.decimal.exponent = -1)

section Reading

variable {digit? : CodePoint → Option Nat} {rest : Text}

theorem read_exponent_part (spelling : Spelling) (reads : Decimal.ReadsDigits digit?)
    (stops : Decimal.NoDigit digit? rest)
    (unmarked : ∀ point ∈ rest.head?, point ≠ 'e' ∧ point ≠ 'E') :
    Decimal.readExponent digit? (spelling.exponentPart ++ rest) =
      spelling.exponent.map fun exponent => (exponent, rest) := by
  unfold exponentPart
  cases spelling.exponent with
  | none => exact Decimal.read_exponent_none unmarked
  | some exponent => exact Decimal.read_exponent_text reads exponent stops

theorem no_digit_exponent_part (spelling : Spelling)
    (notDigit : digit? 'e' = none) (stops : Decimal.NoDigit digit? rest) :
    Decimal.NoDigit digit? (spelling.exponentPart ++ rest) := by
  unfold exponentPart
  cases spelling.exponent with
  | none => exact stops
  | some exponent =>
      intro point first
      obtain rfl := Option.some.inj first
      exact notDigit

theorem no_digit_fraction_part (spelling : Spelling) (notDigit : digit? '.' = none)
    (stops : Decimal.NoDigit digit? rest) :
    Decimal.NoDigit digit? (spelling.fractionPart ++ rest) := by
  unfold fractionPart
  split
  · exact stops
  · intro point first
    obtain rfl := Option.some.inj first
    exact notDigit

end Reading

end Spelling

namespace Double

section Layout

variable {digit : Nat} {digits : List Nat} {exponent : Int}
variable (known : InBase 10 (digit :: digits))

include known

theorem small_spelling (near : ¬(exponent < -4 ∨ 16 ≤ exponent)) (below : exponent < 0) :
    ∃ spelling : Spelling, layOut (spelled (digit :: digits)) exponent = spelling.text ∧
      spelling.exponent = none ∧ spelling.Denotes (digit :: digits) (exponent - digits.length) := by
  have noughts : InBase 10 (List.replicate (-exponent - 1).toNat 0) :=
    in_base_noughts (by decide) _
  refine ⟨⟨[0], List.replicate (-exponent - 1).toNat 0 ++ digit :: digits, none,
    ⟨by simp, Or.inl rfl⟩, in_base_append.2 ⟨noughts, known⟩, Or.inl (by simp)⟩, ?_, rfl, 0, ?_, ?_,
    Or.inl rfl⟩
  · unfold layOut
    rw [if_neg near, if_pos below]
    simp [Spelling.text, Spelling.fractionPart, Spelling.exponentPart, spelled]
    rfl
  · change digitsToNat 10 ([0] ++ (List.replicate _ 0 ++ digit :: digits)) = _
    rw [digits_to_nat_append, digits_to_nat_padded]
    simp [digitsToNat]
  · change (0 : Int) - (List.length (List.replicate _ 0 ++ digit :: digits) : Nat) + 0 = _
    simp
    omega

variable (some : digit ≠ 0)

include some

theorem scientific_spelling (far : exponent < -4 ∨ 16 ≤ exponent) :
    ∃ spelling : Spelling, layOut (spelled (digit :: digits)) exponent = spelling.text ∧
      spelling.exponent ≠ none ∧ spelling.Denotes (digit :: digits) (exponent - digits.length) := by
  obtain ⟨leading, others⟩ := in_base_cons.1 known
  refine ⟨⟨[digit], digits, exponent, ⟨by simp [leading], Or.inr ⟨digit, [], some, rfl⟩⟩, others,
    Or.inr (Option.some_ne_none exponent)⟩, ?_, Option.some_ne_none exponent, 0,
    (Nat.mul_one _).symm, ?_, Or.inl rfl⟩
  · unfold layOut
    rw [if_pos far]
    cases digits with
    | nil => rfl
    | cons other digits =>
        simp only [Spelling.text, Spelling.fractionPart, Spelling.exponentPart, spelled, List.map_cons, List.isEmpty_cons,
          List.append_assoc]
        rfl
  · change exponent - digits.length + 0 = _
    omega

theorem padded_spelling (near : ¬(exponent < -4 ∨ 16 ≤ exponent)) (above : ¬exponent < 0)
    (short : (digit :: digits).length ≤ exponent.toNat + 1) :
    ∃ spelling : Spelling, layOut (spelled (digit :: digits)) exponent = spelling.text ∧
      spelling.exponent = none ∧ spelling.Denotes (digit :: digits) (exponent - digits.length) := by
  let count := exponent.toNat + 1 - (digit :: digits).length
  have noughts : InBase 10 (List.replicate count 0) := in_base_noughts (by decide) _
  refine ⟨⟨digit :: digits ++ List.replicate count 0, [0], none,
    ⟨in_base_append.2 ⟨known, noughts⟩, Or.inr ⟨digit, _, some, rfl⟩⟩, by simp, Or.inl (by simp)⟩,
    ?_, rfl, count + 1, ?_, ?_, Or.inr rfl⟩
  · unfold layOut
    rw [if_neg near, if_neg above]
    dsimp only
    rw [spelled, List.length_map, if_pos short]
    simp [Spelling.text, Spelling.fractionPart, Spelling.exponentPart, spelled, count]
    rfl
  · change digitsToNat 10 ((digit :: digits ++ List.replicate count 0) ++ [0]) = _
    rw [digits_to_nat_append, digits_to_nat_append, digits_to_nat_noughts]
    simp [digitsToNat, Nat.pow_succ, Nat.mul_assoc]
  · change (0 : Int) - 1 + (count + 1 : Nat) = _
    rw [List.length_cons] at short
    simp only [count, List.length_cons]
    omega

theorem divided_spelling (near : ¬(exponent < -4 ∨ 16 ≤ exponent)) (above : ¬exponent < 0)
    (long : ¬(digit :: digits).length ≤ exponent.toNat + 1) :
    ∃ spelling : Spelling, layOut (spelled (digit :: digits)) exponent = spelling.text ∧
      spelling.exponent = none ∧ spelling.Denotes (digit :: digits) (exponent - digits.length) := by
  let place := exponent.toNat + 1
  have both := List.take_append_drop place (digit :: digits)
  have parts : InBase 10 ((digit :: digits).take place ++ (digit :: digits).drop place) := by
    rw [both]
    exact known
  have behind : (digit :: digits).drop place ≠ [] := by
    intro nothing
    exact long (List.drop_eq_nil_iff.1 nothing)
  refine ⟨⟨(digit :: digits).take place, (digit :: digits).drop place, none,
    ⟨(in_base_append.1 parts).1, Or.inr ⟨digit, _, some, rfl⟩⟩, (in_base_append.1 parts).2,
    Or.inl behind⟩, ?_, rfl, 0, ?_, ?_, Or.inl rfl⟩
  · unfold layOut
    rw [if_neg near, if_neg above]
    dsimp only
    rw [spelled, List.length_map, if_neg long]
    have marked : ((digit :: digits).drop place).isEmpty = false := List.isEmpty_eq_false_iff.2 behind
    simp only [Spelling.text, Spelling.fractionPart, Spelling.exponentPart, spelled, marked, List.map_take, List.map_drop,
      Bool.false_eq_true, if_false, List.append_nil, List.append_assoc, place]
  · change digitsToNat 10 ((digit :: digits).take place ++ (digit :: digits).drop place) = _
    rw [both]
    exact (Nat.mul_one _).symm
  · change (0 : Int) - (List.length ((digit :: digits).drop place) : Nat) + 0 = _
    rw [List.length_drop, List.length_cons]
    rw [List.length_cons] at long
    omega

theorem near_spelling (near : ¬(exponent < -4 ∨ 16 ≤ exponent)) :
    ∃ spelling : Spelling, layOut (spelled (digit :: digits)) exponent = spelling.text ∧
      spelling.exponent = none ∧ spelling.Denotes (digit :: digits) (exponent - digits.length) := by
  by_cases below : exponent < 0
  · exact small_spelling known near below
  · by_cases short : (digit :: digits).length ≤ exponent.toNat + 1
    · exact padded_spelling known some near below short
    · exact divided_spelling known some near below short

theorem laid_out_spelling (exponent : Int) :
    ∃ spelling : Spelling, layOut (spelled (digit :: digits)) exponent = spelling.text ∧
      (spelling.exponent = none ↔ ¬(exponent < -4 ∨ 16 ≤ exponent)) ∧
        spelling.Denotes (digit :: digits) (exponent - digits.length) := by
  by_cases far : exponent < -4 ∨ 16 ≤ exponent
  · obtain ⟨spelling, written, marked, worth⟩ := scientific_spelling known some far
    exact ⟨spelling, written, iff_of_false marked (not_not_intro far), worth⟩
  · obtain ⟨spelling, written, unmarked, worth⟩ := near_spelling known some far
    exact ⟨spelling, written, iff_of_true unmarked far, worth⟩

end Layout

theorem nought_of_digit :
    ∀ digit < 10, CodePoint.is '0' (CodePoint.ofDigit digit) = decide (digit = 0) := by decide

theorem drop_final_zeros_spelled {digits : List Nat} (known : InBase 10 digits) :
    ∃ kept count, digits = kept ++ List.replicate count 0 ∧
      dropFinalZeros (spelled digits) = spelled kept := by
  change ∃ kept count, _ ∧ (spelled digits).rdropWhile (CodePoint.is '0') = _
  induction digits using List.reverseRecOn with
  | nil => exact ⟨[], 0, rfl, rfl⟩
  | append_singleton digits digit ih =>
      obtain ⟨others, last⟩ := in_base_append.1 known
      have below : digit < 10 := (in_base_cons.1 last).1
      have isNought := nought_of_digit digit below
      have written : spelled (digits ++ [digit]) = spelled digits ++ [CodePoint.ofDigit digit] := by
        simp [spelled]
      rw [written, List.rdropWhile_concat, isNought]
      by_cases nought : digit = 0
      · obtain ⟨kept, count, rfl, dropped⟩ := ih others
        refine ⟨kept, count + 1, ?_, ?_⟩
        · rw [nought, List.append_assoc, ← List.replicate_succ']
        · rw [decide_eq_true nought, if_pos rfl, dropped]
      · refine ⟨digits ++ [digit], 0, (List.append_nil _).symm, ?_⟩
        rw [decide_eq_false nought, if_neg Bool.false_ne_true, written]

/-- A positive number is written plainly while its first digit stands near the point. -/
theorem positive_spelling {magnitude : Magnitude} (some : magnitude.units ≠ 0) :
    ∃ spelling : Spelling, magnitudeText magnitude = spelling.text ∧
      (spelling.exponent = none ↔
        ¬((shortest magnitude).firstPlace < -4 ∨ 16 ≤ (shortest magnitude).firstPlace)) ∧
      ∀ negative, spelling.decimal.toDouble negative = .finite negative magnitude := by
  obtain ⟨places, scale, rounded⟩ := shortest_rounds magnitude
  have nonzero := Decimal.coefficient_ne_zero some rounded
  unfold magnitudeText
  rw [if_neg some]
  dsimp only
  generalize shortest magnitude = decimal at scale rounded nonzero ⊢
  unfold Decimal.firstPlace
  have known : InBase 10 (numeral 10 decimal.coefficient) := numeral_in_base (by decide) _
  have value := digits_to_nat_numeral 10 decimal.coefficient
  have length := length_of_nat decimal.coefficient
  obtain ⟨kept, count, parts, dropped⟩ := drop_final_zeros_spelled known
  rw [length, of_nat_eq, dropped]
  rw [parts] at known value ⊢
  rcases numeral_begins 10 decimal.coefficient with ⟨-, zero⟩ | ⟨digit, others, leading, begins⟩
  · exact absurd zero nonzero
  obtain ⟨digits, rfl⟩ : ∃ digits, kept = digit :: digits := by
    rw [parts] at begins
    cases kept with
    | nil =>
        have nought : digit ∈ List.replicate count 0 := by
          rw [List.nil_append] at begins
          rw [begins]
          exact List.mem_cons_self
        exact absurd (List.eq_of_mem_replicate nought) leading
    | cons other digits =>
        obtain ⟨rfl, -⟩ := List.cons.inj begins
        exact ⟨digits, rfl⟩
  have power : decimal.exponent + ((digit :: digits) ++ List.replicate count 0).length - 1 -
      digits.length = decimal.exponent + count := by
    rw [List.length_append, List.length_cons, List.length_replicate]
    omega
  obtain ⟨spelling, written, marked, more, coefficient, exponent, near⟩ :=
    laid_out_spelling (in_base_append.1 known).1 leading
      (decimal.exponent + ((digit :: digits) ++ List.replicate count 0).length - 1)
  rw [power, scale] at exponent
  refine ⟨spelling, written, marked, fun negative => ?_⟩
  have fewer : more ≤ places + count := by omega
  have scaled : spelling.decimal.exponent = (places + count - more : Nat) - 1074 := by omega
  have factors : 10 ^ more * 10 ^ (places + count - more) = 10 ^ count * 10 ^ places := by
    rw [← Nat.pow_add, ← Nat.pow_add]
    congr 1
    omega
  refine Decimal.to_double_of_rounded some scaled ?_ negative
  rw [digits_to_nat_append, digits_to_nat_noughts, List.length_replicate, Nat.add_zero] at value
  rw [coefficient, Nat.mul_assoc, factors, ← Nat.mul_assoc, value]
  exact rounded

theorem magnitude_spelling (magnitude : Magnitude) :
    ∃ spelling : Spelling, magnitudeText magnitude = spelling.text ∧
      ∀ negative, spelling.decimal.toDouble negative = .finite negative magnitude := by
  by_cases zero : magnitude.units = 0
  · refine ⟨⟨[0], [0], none, ⟨by simp, Or.inl rfl⟩, by simp, Or.inl (by simp)⟩, ?_, fun negative => ?_⟩
    · unfold magnitudeText
      rw [if_pos zero]
      rfl
    · obtain ⟨units, fits⟩ := magnitude
      subst zero
      rfl
  · obtain ⟨spelling, written, -, back⟩ := positive_spelling zero
    exact ⟨spelling, written, back⟩

end Double

end Dimming
