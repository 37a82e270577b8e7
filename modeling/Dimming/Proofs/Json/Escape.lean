import Dimming.Json.Reader
import Dimming.Json.Writer
import Dimming.Proofs.Text.Numeral
import Mathlib.Data.List.Chain

/-!
# Strings read back

Every code point of a string is written so that it is read as its sixteen-bit units, and joining
the units gives the string back. Only a high surrogate with a low one right behind it would be
taken for a single code point; a string that was read has no such two.
-/

set_option autoImplicit false

namespace Dimming

namespace Text

/-- No high surrogate has a low one right behind it. -/
def Unpaired (text : Text) : Prop :=
  text.IsChain fun point next => (point.isHighSurrogate && next.isLowSurrogate) = false

instance (text : Text) : Decidable text.Unpaired :=
  inferInstanceAs (Decidable (List.IsChain _ text))

theorem unpaired_of_no_high {text : Text} (none : ∀ point ∈ text, point.isHighSurrogate = false) :
    text.Unpaired := by
  induction text with
  | nil => exact List.IsChain.nil
  | cons point text ih =>
      obtain ⟨first, rest⟩ := List.forall_mem_cons.1 none
      refine List.IsChain.cons (ih rest) fun next _ => ?_
      rw [first, Bool.false_and]

end Text

namespace Json

open Text

section Units

variable {high low point : CodePoint}

/-- The sixteen-bit units of a code point, each as a code point of its own. -/
def pointUnits (point : CodePoint) : Text := point.toUtf16.filterMap CodePoint.ofNat?

theorem join_surrogates_none_iff :
    CodePoint.joinSurrogates? high low = none ↔
      (high.isHighSurrogate && low.isLowSurrogate) = false := by
  unfold CodePoint.joinSurrogates?
  constructor
  · intro found
    by_contra pair
    rw [Bool.not_eq_false] at pair
    rw [pair, if_pos rfl] at found
    simp only [Bool.and_eq_true, CodePoint.isHighSurrogate, CodePoint.isLowSurrogate,
      decide_eq_true_eq] at pair
    simp only [CodePoint.ofNat?, dite_eq_right_iff, reduceCtorEq, imp_false] at found
    omega
  · intro apart
    rw [apart, if_neg Bool.false_ne_true]

theorem join_surrogates_some {joined : CodePoint}
    (found : CodePoint.joinSurrogates? high low = some joined) : 0x10000 ≤ joined.value := by
  unfold CodePoint.joinSurrogates? CodePoint.ofNat? at found
  split at found
  · split at found
    · obtain rfl := Option.some.inj found
      dsimp only
      omega
    · cases found
  · cases found

theorem supplementary_not_surrogate (large : 0x10000 ≤ point.value) :
    point.isHighSurrogate = false ∧ point.isLowSurrogate = false := by
  unfold CodePoint.isHighSurrogate CodePoint.isLowSurrogate
  simp only [decide_eq_false_iff_not]
  omega

theorem point_units_cases (point : CodePoint) :
    pointUnits point = [point] ∨
      ∃ high low, pointUnits point = [high, low] ∧ high.isLowSurrogate = false ∧
        CodePoint.joinSurrogates? high low = some point := by
  unfold pointUnits CodePoint.toUtf16
  split
  next small =>
    left
    simp [CodePoint.ofNat?, point.value_lt]
  next large =>
    have inside := point.value_lt
    have highLt : 0xD800 + (point.value - 0x10000) / 0x400 < 0x110000 := by omega
    have lowLt : 0xDC00 + (point.value - 0x10000) % 0x400 < 0x110000 := by omega
    refine Or.inr ⟨⟨_, highLt⟩, ⟨_, lowLt⟩, ?_, ?_, ?_⟩
    · simp [CodePoint.ofNat?, highLt, lowLt]
    · simp only [CodePoint.isLowSurrogate, decide_eq_false_iff_not]
      omega
    · have isHigh : (CodePoint.mk _ highLt).isHighSurrogate = true := by
        simp only [CodePoint.isHighSurrogate, decide_eq_true_eq]
        omega
      have isLow : (CodePoint.mk _ lowLt).isLowSurrogate = true := by
        simp only [CodePoint.isLowSurrogate, decide_eq_true_eq]
        omega
      have same : 0x10000 + (0xD800 + (point.value - 0x10000) / 0x400 - 0xD800) * 0x400 +
          (0xDC00 + (point.value - 0x10000) % 0x400 - 0xDC00) = point.value := by
        omega
      unfold CodePoint.joinSurrogates? CodePoint.ofNat?
      rw [isHigh, isLow, Bool.and_self, if_pos rfl]
      simp only [same, dif_pos point.value_lt]

theorem join_pairs_cons_none {rest : Text} (apart : CodePoint.joinSurrogates? high low = none) :
    joinPairs (high :: low :: rest) = high :: joinPairs (low :: rest) := by
  rw [joinPairs, apart]

theorem join_pairs_cons_some {joined : CodePoint} {rest : Text}
    (found : CodePoint.joinSurrogates? high low = some joined) :
    joinPairs (high :: low :: rest) = joined :: joinPairs rest := by
  rw [joinPairs, found]

theorem join_point_units {text : Text} (unpaired : text.Unpaired) :
    joinPairs (text.flatMap pointUnits) = text := by
  induction text with
  | nil => rfl
  | cons point text ih =>
      have joined := ih unpaired.tail
      rw [List.flatMap_cons]
      rcases point_units_cases point with single | ⟨high, low, double, -, found⟩
      · rw [single, List.singleton_append]
        cases text with
        | nil => rfl
        | cons next text =>
            rw [List.flatMap_cons] at joined ⊢
            rcases point_units_cases next with nextSingle | ⟨high, low, nextDouble, notLow, -⟩
            · have apart := join_surrogates_none_iff.2 unpaired.rel
              rw [nextSingle, List.singleton_append] at joined ⊢
              rw [join_pairs_cons_none apart, joined]
            · have apart : CodePoint.joinSurrogates? point high = none := by
                apply join_surrogates_none_iff.2
                rw [notLow, Bool.and_false]
              rw [nextDouble] at joined ⊢
              change joinPairs (point :: high :: ([low] ++ text.flatMap pointUnits)) = _
              rw [join_pairs_cons_none apart]
              exact congrArg (point :: ·) joined
      · rw [double]
        change joinPairs (high :: low :: text.flatMap pointUnits) = _
        rw [join_pairs_cons_some found, joined]

end Units

theorem escape_point_cases (point : CodePoint) :
    (∃ mark : CodePoint, mark ≠ 'u' ∧ shortEscape? mark = some point ∧ point.value < 0x7f ∧
        escapePoint point = [CodePoint.ofChar '\\', mark]) ∨
      (point ≠ '"' ∧ point ≠ '\\' ∧ ¬point.value < 0x20 ∧ point.value < 0x7f ∧
        escapePoint point = [point]) ∨
      escapePoint point = escapeUnits point := by
  unfold escapePoint
  split
  next same => exact Or.inl ⟨'"', by subst same; decide⟩
  next quote =>
  split
  next same => exact Or.inl ⟨'\\', by subst same; decide⟩
  next escape =>
  split
  next same => exact Or.inl ⟨'n', by subst same; decide⟩
  next =>
  split
  next same => exact Or.inl ⟨'r', by subst same; decide⟩
  next =>
  split
  next same => exact Or.inl ⟨'t', by subst same; decide⟩
  next =>
  split
  next same => exact Or.inl ⟨'f', by subst same; decide⟩
  next =>
  split
  next same => exact Or.inl ⟨'b', by subst same; decide⟩
  next =>
  split
  next visible => exact Or.inr (Or.inl ⟨quote, escape, by omega, by omega, rfl⟩)
  next => exact Or.inr (Or.inr rfl)

section Escapes

variable {opening rest units left : Text} {point mark : CodePoint}
variable (behind : readUnits opening rest = .ok (units, left))

include behind

theorem read_units_plain (quote : point ≠ '"') (escape : point ≠ '\\')
    (visible : ¬point.value < 0x20) :
    readUnits opening (point :: rest) = .ok (point :: units, left) := by
  rw [readUnits.eq_def]
  dsimp only
  rw [if_neg quote, if_neg escape, if_neg visible, behind]
  rfl

theorem read_units_short {unit : CodePoint} (short : mark ≠ 'u')
    (known : shortEscape? mark = some unit) :
    readUnits opening ('\\' :: mark :: rest) = .ok (unit :: units, left) := by
  rw [readUnits.eq_def]
  dsimp only
  rw [if_neg (by decide), if_pos rfl, if_neg short, known]
  dsimp only
  rw [behind]
  rfl

theorem read_units_long {unit : Nat} (small : unit < 0x10000) (more : rest ≠ []) :
    ∃ point, CodePoint.ofNat? unit = some point ∧
      readUnits opening ("\\u" ++ ofNatHex 4 unit ++ rest) = .ok (point :: units, left) := by
  obtain ⟨first, second, third, fourth, known, written, value⟩ := of_nat_hex_four small
  simp only [in_base_cons, in_base_nil, and_true] at known
  have hex : ∀ digit < 16, (CodePoint.ofDigit digit).hexValue? = some digit := by decide
  have inside : unit < 0x110000 := by omega
  have escape : longEscape? (CodePoint.ofDigit first) (CodePoint.ofDigit second)
      (CodePoint.ofDigit third) (CodePoint.ofDigit fourth) = CodePoint.ofNat? unit := by
    unfold longEscape?
    rw [hex first known.1, hex second known.2.1, hex third known.2.2.1, hex fourth known.2.2.2]
    exact congrArg CodePoint.ofNat? value
  have found : CodePoint.ofNat? unit = some ⟨unit, inside⟩ := dif_pos inside
  refine ⟨⟨unit, inside⟩, found, ?_⟩
  rw [found] at escape
  rw [written]
  change readUnits opening ('\\' :: 'u' :: CodePoint.ofDigit first :: CodePoint.ofDigit second ::
    CodePoint.ofDigit third :: CodePoint.ofDigit fourth :: rest) = _
  rw [readUnits.eq_def]
  dsimp only
  rw [if_neg (by decide), if_pos rfl, if_pos rfl, escape]
  cases rest with
  | nil => exact absurd rfl more
  | cons next rest =>
      dsimp only
      rw [behind]
      rfl

theorem read_escape_units (more : rest ≠ []) (point : CodePoint) :
    readUnits opening (escapeUnits point ++ rest) = .ok (pointUnits point ++ units, left) := by
  have inside := point.value_lt
  unfold escapeUnits pointUnits CodePoint.toUtf16
  split
  next small =>
    obtain ⟨unit, found, read⟩ := read_units_long behind small more
    simpa [found] using read
  next large =>
    have highSmall : 0xD800 + (point.value - 0x10000) / 0x400 < 0x10000 := by omega
    have lowSmall : 0xDC00 + (point.value - 0x10000) % 0x400 < 0x10000 := by omega
    obtain ⟨low, lowFound, lowRead⟩ := read_units_long behind lowSmall more
    have longer : ofString "\\u" ++ ofNatHex 4 (0xDC00 + (point.value - 0x10000) % 0x400) ++ rest ≠ [] :=
      List.cons_ne_nil _ _
    obtain ⟨high, highFound, highRead⟩ := read_units_long lowRead highSmall longer
    simpa [highFound, lowFound] using highRead

theorem read_escape_point (more : rest ≠ []) (point : CodePoint) :
    readUnits opening (escapePoint point ++ rest) = .ok (pointUnits point ++ units, left) := by
  have single (small : point.value < 0x10000) : pointUnits point = [point] := by
    unfold pointUnits CodePoint.toUtf16 CodePoint.ofNat?
    simp [small, point.value_lt]
  rcases escape_point_cases point with
    ⟨mark, short, known, small, written⟩ | ⟨quote, escape, visible, small, written⟩ | written
  · rw [written, single (by omega)]
    exact read_units_short behind short known
  · rw [written, single (by omega)]
    exact read_units_plain behind quote escape visible
  · rw [written]
    exact read_escape_units behind more point

end Escapes

section Strings

variable {rest text : Text}

theorem read_units_written (opening text rest : Text) :
    readUnits opening (text.flatMap escapePoint ++ (CodePoint.ofChar '"' :: rest)) =
      .ok (text.flatMap pointUnits, rest) := by
  induction text with
  | nil =>
      rw [List.flatMap_nil, List.nil_append, readUnits.eq_def]
      exact if_pos rfl
  | cons point text ih =>
      have more : text.flatMap escapePoint ++ (CodePoint.ofChar '"' :: rest) ≠ [] := by simp
      rw [List.flatMap_cons, List.append_assoc]
      exact read_escape_point ih more point

theorem read_string_written (unpaired : text.Unpaired) (rest : Text) :
    readString (writeString text ++ rest) = .ok (text, rest) := by
  have quoted : writeString text ++ rest =
      CodePoint.ofChar '"' :: (text.flatMap escapePoint ++ (CodePoint.ofChar '"' :: rest)) := by
    unfold writeString
    rw [List.append_assoc, List.append_assoc]
    rfl
  unfold readString
  rw [quoted, List.drop_one, List.tail_cons, read_units_written]
  exact congrArg (fun joined => Except.ok (joined, rest)) (join_point_units unpaired)

/-- Joining leaves no pair: what it joins is no surrogate any more. -/
theorem join_pairs_unpaired (units : Text) : (joinPairs units).Unpaired := by
  have begins (point : CodePoint) (units : Text) :
      ∃ first rest, joinPairs (point :: units) = first :: rest ∧
        (first = point ∨ first.isLowSurrogate = false) := by
    cases units with
    | nil => exact ⟨point, [], rfl, Or.inl rfl⟩
    | cons low units =>
        cases found : CodePoint.joinSurrogates? point low with
        | none => exact ⟨point, _, join_pairs_cons_none found, Or.inl rfl⟩
        | some joined =>
            have supplementary := supplementary_not_surrogate (join_surrogates_some found)
            exact ⟨joined, _, join_pairs_cons_some found, Or.inr supplementary.2⟩
  induction units using joinPairs.induct with
  | case1 => exact List.IsChain.nil
  | case2 point => exact List.IsChain.singleton point
  | case3 high low rest joined found ih =>
      have supplementary := supplementary_not_surrogate (join_surrogates_some found)
      rw [join_pairs_cons_some found]
      refine List.IsChain.cons ih fun next _ => ?_
      rw [supplementary.1, Bool.false_and]
  | case4 high low rest found ih =>
      obtain ⟨first, behind, same, kept⟩ := begins low rest
      rw [join_pairs_cons_none found]
      refine List.IsChain.cons ih fun next isNext => ?_
      rw [same] at isNext
      obtain rfl := Option.some.inj isNext
      rcases kept with rfl | notLow
      · exact join_surrogates_none_iff.1 found
      · rw [notLow, Bool.and_false]

end Strings

end Json

end Dimming
