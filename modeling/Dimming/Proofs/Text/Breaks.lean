import Dimming.Proofs.Text.Lines
import Dimming.Span
import Mathlib.Data.Set.Card

/-!
# Lines as counts of line breaks

The line of an offset is the number of line breaks that it has passed, and its column is the way from
the last of them. A carriage return and a line feed behind it are one break; so what stands between
the two is still on the line that they end. Which offsets are ends of breaks is read off the text
alone, and no two breaks have the same end.
-/

set_option autoImplicit false

namespace Dimming

namespace Text

/-- A line break: a carriage return with a line feed behind it, or either of them without the other.
-/
inductive IsBreak (text : Text) : Span → Prop where
  | pair {start : Nat} (first : text[start]? = some (CodePoint.ofChar '\r'))
      (second : text[start + 1]? = some (CodePoint.ofChar '\n')) : IsBreak text ⟨start, start + 2⟩
  | return {start : Nat} (here : text[start]? = some (CodePoint.ofChar '\r'))
      (alone : text[start + 1]? ≠ some (CodePoint.ofChar '\n')) : IsBreak text ⟨start, start + 1⟩
  | feed {start : Nat} (here : text[start]? = some (CodePoint.ofChar '\n'))
      (alone : start = 0 ∨ text[start - 1]? ≠ some (CodePoint.ofChar '\r')) :
      IsBreak text ⟨start, start + 1⟩

/-- The breaks that end at an offset or in front of it. -/
def breaksUpTo (text : Text) (offset : Nat) : Set Span :=
  {span | IsBreak text span ∧ span.stop ≤ offset}

/-- The line of an offset begins behind the last break that the offset has passed, or where the text
begins. -/
structure LineBegins (text : Text) (offset start : Nat) : Prop where
  behind : start = 0 ∨ ∃ span ∈ breaksUpTo text offset, span.stop = start
  last : ∀ span ∈ breaksUpTo text offset, span.stop ≤ start

/-- Whether a line ends with the point at an offset. -/
def EndsLine (text : Text) (offset : Nat) : Prop :=
  text[offset]? = some (CodePoint.ofChar '\n') ∨
    text[offset]? = some (CodePoint.ofChar '\r') ∧
      text[offset + 1]? ≠ some (CodePoint.ofChar '\n')

section Ends

variable {text : Text} {span other : Span}

/-- A break ends behind the point that ends the line, and which of the three it is depends on what
stands in front. -/
theorem IsBreak.ends_line (broken : IsBreak text span) :
    ∃ offset, span.stop = offset + 1 ∧ EndsLine text offset ∧
      span.start = if text[offset]? = some (CodePoint.ofChar '\n') ∧ offset ≠ 0 ∧
        text[offset - 1]? = some (CodePoint.ofChar '\r') then offset - 1 else offset := by
  cases broken with
  | @pair start first second => exact ⟨start + 1, rfl, Or.inl second, by simp [first, second]⟩
  | @«return» start here alone =>
      have other : ¬text[start]? = some (CodePoint.ofChar '\n') := by
        rw [here]
        decide
      exact ⟨start, rfl, Or.inr ⟨here, alone⟩, by simp [other]⟩
  | @feed start here alone =>
      refine ⟨start, rfl, Or.inl here, ?_⟩
      rcases alone with rfl | alone
      · simp
      · simp [alone]

theorem break_of_ends_line {offset : Nat} (ended : EndsLine text offset) :
    ∃ span, IsBreak text span ∧ span.stop = offset + 1 := by
  rcases ended with feed | ⟨here, alone⟩
  · by_cases paired : offset ≠ 0 ∧ text[offset - 1]? = some (CodePoint.ofChar '\r')
    · obtain ⟨notFirst, before⟩ := paired
      obtain ⟨start, rfl⟩ := Nat.exists_eq_succ_of_ne_zero notFirst
      exact ⟨_, .pair before feed, rfl⟩
    · refine ⟨_, .feed feed ?_, rfl⟩
      by_cases first : offset = 0
      · exact Or.inl first
      · exact Or.inr fun before => paired ⟨first, before⟩
  · exact ⟨_, .return here alone, rfl⟩

theorem IsBreak.eq_of_stop (broken : IsBreak text span) (also : IsBreak text other)
    (same : span.stop = other.stop) : span = other := by
  obtain ⟨offset, stop, -, start⟩ := broken.ends_line
  obtain ⟨place, otherStop, -, otherStart⟩ := also.ends_line
  obtain rfl : offset = place := by omega
  cases span
  cases other
  simp only [Span.mk.injEq]
  exact ⟨start.trans otherStart.symm, same⟩

end Ends

end Text

namespace LineIndex

open Dimming.Text

variable {text : Text} {offset : Nat}

theorem mem_breaks_from_iff (start : Nat) (text : Text) (mark : Nat) :
    mark ∈ breaksFrom start text ↔ ∃ offset, mark = start + offset + 1 ∧ EndsLine text offset := by
  induction text generalizing start with
  | nil => simp [breaksFrom, EndsLine]
  | cons point rest ih =>
      have first : EndsLine (point :: rest) 0 ↔
          (point = '\n' || (point = '\r' && rest.head? != some (CodePoint.ofChar '\n'))) = true := by
        simp [EndsLine, List.head?_eq_getElem?]
      have shifted (offset : Nat) : EndsLine (point :: rest) (offset + 1) ↔ EndsLine rest offset := by
        simp [EndsLine]
      have split : (∃ offset, mark = start + offset + 1 ∧ EndsLine (point :: rest) offset) ↔
          (mark = start + 1 ∧ EndsLine (point :: rest) 0) ∨
            ∃ offset, mark = start + 1 + offset + 1 ∧ EndsLine rest offset := by
        constructor
        · rintro ⟨_ | offset, rfl, ended⟩
          · exact Or.inl ⟨rfl, ended⟩
          · exact Or.inr ⟨offset, by omega, (shifted offset).1 ended⟩
        · rintro (⟨rfl, ended⟩ | ⟨offset, rfl, ended⟩)
          · exact ⟨0, rfl, ended⟩
          · exact ⟨offset + 1, by omega, (shifted offset).2 ended⟩
      rw [split, first, ← ih (start + 1), breaksFrom]
      split
      next broken => simp [broken]
      next unbroken => simp [unbroken]

theorem breaks_sorted (start : Nat) (text : Text) : (breaksFrom start text).Pairwise (· < ·) := by
  induction text generalizing start with
  | nil => exact List.Pairwise.nil
  | cons point rest ih =>
      rw [breaksFrom]
      split
      · exact List.Pairwise.cons (breaks_from_later (start + 1) rest) (ih (start + 1))
      · exact ih (start + 1)

theorem mem_take_while_iff {marks : List Nat} (sorted : marks.Pairwise (· < ·)) {mark : Nat} :
    mark ∈ marks.takeWhile (· ≤ offset) ↔ mark ∈ marks ∧ mark ≤ offset := by
  induction sorted with
  | nil => simp
  | @cons first rest before _ ih =>
      by_cases passed : first ≤ offset
      · rw [List.takeWhile_cons, if_pos (decide_eq_true passed), List.mem_cons, List.mem_cons, ih]
        constructor
        · rintro (rfl | ⟨among, upTo⟩)
          · exact ⟨Or.inl rfl, passed⟩
          · exact ⟨Or.inr among, upTo⟩
        · rintro ⟨rfl | among, upTo⟩
          · exact Or.inl rfl
          · exact Or.inr ⟨among, upTo⟩
      · rw [List.takeWhile_cons, if_neg (by simpa using passed)]
        refine ⟨fun absent => absurd absent List.not_mem_nil, fun ⟨among, upTo⟩ => ?_⟩
        rcases List.mem_cons.1 among with rfl | among
        · exact absurd upTo passed
        · exact absurd (Nat.lt_of_lt_of_le (before mark among) upTo |>.le) passed

theorem mem_passed_iff {mark : Nat} :
    mark ∈ (ofText text).passed offset ↔ ∃ span ∈ breaksUpTo text offset, span.stop = mark := by
  unfold passed ofText
  rw [mem_take_while_iff (breaks_sorted 0 text), mem_breaks_from_iff]
  constructor
  · rintro ⟨⟨place, rfl, ended⟩, upTo⟩
    obtain ⟨span, broken, stop⟩ := break_of_ends_line ended
    rw [Nat.zero_add] at upTo ⊢
    exact ⟨span, ⟨broken, stop ▸ upTo⟩, stop⟩
  · rintro ⟨span, ⟨broken, upTo⟩, rfl⟩
    obtain ⟨place, stop, ended, -⟩ := broken.ends_line
    exact ⟨⟨place, by rw [stop, Nat.zero_add], ended⟩, upTo⟩

theorem passed_sorted (text : Text) (offset : Nat) :
    ((ofText text).passed offset).Pairwise (· < ·) :=
  (breaks_sorted 0 text).sublist (List.takeWhile_sublist _)

theorem length_passed (text : Text) (offset : Nat) :
    ((ofText text).passed offset).length = (breaksUpTo text offset).ncard := by
  have injective : Set.InjOn Span.stop (breaksUpTo text offset) :=
    fun span broken other also same => broken.1.eq_of_stop also.1 same
  have marks : Span.stop '' breaksUpTo text offset = ((ofText text).passed offset).toFinset := by
    ext mark
    rw [List.coe_toFinset]
    exact mem_passed_iff.symm
  have distinct : ((ofText text).passed offset).Nodup :=
    (passed_sorted text offset).imp Nat.ne_of_lt
  rw [← injective.ncard_image, marks, Set.ncard_coe_finset, List.toFinset_card_of_nodup distinct]

theorem line_begins (text : Text) (offset : Nat) :
    LineBegins text offset ((ofText text).lineStart offset) := by
  have last : ∀ mark ∈ (ofText text).passed offset, mark ≤ (ofText text).lineStart offset := by
    intro mark among
    unfold lineStart
    rw [List.getLastD_eq_getLast?, List.getLast?_eq_some_getLast (List.ne_nil_of_mem among)]
    exact ((passed_sorted text offset).imp Nat.le_of_lt).rel_getLast among
  constructor
  · cases found : ((ofText text).passed offset).getLast? with
    | none =>
        left
        rw [lineStart, List.getLastD_eq_getLast?, found]
        rfl
    | some mark =>
        right
        rw [lineStart, List.getLastD_eq_getLast?, found]
        exact mem_passed_iff.1 (List.mem_of_getLast? found)
  · intro span broken
    exact last span.stop (mem_passed_iff.2 ⟨span, broken, rfl⟩)

theorem line_count_eq (text : Text) :
    (ofText text).lineCount = (breaksUpTo text text.length).ncard + 1 := by
  have all : (ofText text).passed text.length = (ofText text).breaks := by
    unfold passed
    rw [List.takeWhile_eq_self_iff]
    intro mark among
    obtain ⟨place, rfl, ended⟩ := (mem_breaks_from_iff 0 text mark).1 among
    have inside : place < text.length := by
      by_contra outside
      have absent : text[place]? = none := List.getElem?_eq_none (Nat.le_of_not_lt outside)
      simp [EndsLine, absent] at ended
    simp only [decide_eq_true_eq]
    omega
  unfold lineCount
  rw [← all, length_passed]

theorem position_at_clamped (index : LineIndex) (offset : Int) :
    index.positionAt offset =
      index.positionAt ((max 0 (min offset index.length)).toNat : Nat) := by
  have same : index.clamp offset = index.clamp ((max 0 (min offset index.length)).toNat : Nat) := by
    unfold clamp
    omega
  unfold positionAt
  rw [same]

end LineIndex

theorem LineIndex.position_at_lt_iff {index : LineIndex} {first second : Nat}
    (inside : first ≤ index.length) (alsoInside : second ≤ index.length) :
    (index.positionAt first).lt (index.positionAt second) = true ↔ first < second := by
  constructor
  · intro before
    rcases Nat.lt_trichotomy first second with earlier | rfl | later
    · exact earlier
    · rw [Position.lt_iff] at before
      omega
    · have behind := position_at_lt inside later
      rw [Position.lt_iff] at before behind
      omega
  · exact position_at_lt alsoInside

/-- An offset of a text, moved to the nearest end if it lies outside, is on the line whose number is
that of the breaks that end up to it, in the column that is its way from where the line begins; and
there is such a line. Inside of a text, positions come in the order of their offsets. -/
theorem position_counts_breaks (text : Text) :
    let index := LineIndex.ofText text
    (∀ offset : Int,
      let inside := (max 0 (min offset text.length)).toNat
      ∃ start ≤ inside, Text.LineBegins text inside start ∧
        index.positionAt offset =
          ⟨(Text.breaksUpTo text inside).ncard, (inside : Int) - (start : Int)⟩ ∧
        (Text.breaksUpTo text inside).ncard < index.lineCount) ∧
    index.lineCount = (Text.breaksUpTo text text.length).ncard + 1 ∧
    ∀ first second : Int, 0 ≤ first → first ≤ text.length → 0 ≤ second → second ≤ text.length →
      ((index.positionAt first).lt (index.positionAt second) = true ↔ first < second) := by
  intro index
  refine ⟨?_, LineIndex.line_count_eq text, ?_⟩
  · intro offset inside
    have upTo : inside ≤ index.length := by
      change (max 0 (min offset text.length)).toNat ≤ text.length
      omega
    have before := index.line_start_le inside
    refine ⟨index.lineStart inside, before, LineIndex.line_begins text inside, ?_, ?_⟩
    · rw [LineIndex.position_at_clamped]
      change index.positionAt (inside : Nat) = _
      rw [LineIndex.position_at_inside upTo, LineIndex.length_passed, Int.ofNat_sub before]
    · rw [← LineIndex.length_passed]
      exact Nat.lt_succ_of_le (List.takeWhile_sublist _).length_le
  · intro first second fromStart upTo alsoFromStart alsoUpTo
    lift first to Nat using fromStart
    lift second to Nat using alsoFromStart
    rw [Int.ofNat_lt]
    exact LineIndex.position_at_lt_iff (Int.ofNat_le.1 upTo) (Int.ofNat_le.1 alsoUpTo)

/-- Between the two points of a pair the first line goes on; the feed behind the pair ends a line of
its own. -/
theorem position_inside_pair :
    let index := LineIndex.ofText "a\r\n\nb"
    index.positionAt 2 = ⟨0, 2⟩ ∧ index.positionAt 3 = ⟨1, 0⟩ ∧
      (index.positionAt 2).lt (index.positionAt 3) = true ∧
      (Text.breaksUpTo "a\r\n\nb" 4).ncard = 2 := by
  intro index
  obtain ⟨counted, -, ordered⟩ := position_counts_breaks "a\r\n\nb"
  obtain ⟨start, -, -, position, -⟩ := counted 4
  have line := congrArg Position.line position
  refine ⟨by decide, by decide, ?_, ?_⟩
  · exact (ordered 2 3 (by decide) (by decide) (by decide) (by decide)).2 (by decide)
  · have read : ((LineIndex.ofText "a\r\n\nb").positionAt 4).line = 2 := by decide
    exact Int.ofNat_inj.1 (line.symm.trans read)

end Dimming
