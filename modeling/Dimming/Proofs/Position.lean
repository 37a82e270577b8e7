import Dimming.Position
import Mathlib.Data.List.TakeWhile

/-!
# Order of positions

Offsets inside a text become positions in the order of reading: what is further on stands on the
same line in a later column, or on a later line. This rests on nothing but the search for the line:
the breaks up to an offset begin the ones up to a later offset.
-/

set_option autoImplicit false

namespace Dimming

theorem Position.lt_iff {left right : Position} :
    left.lt right = true ↔
      left.line < right.line ∨ left.line = right.line ∧ left.column < right.column := by
  unfold Position.lt
  rw [Bool.or_eq_true, Bool.and_eq_true, decide_eq_true_iff, decide_eq_true_iff,
    decide_eq_true_iff]

theorem Position.le_iff {left right : Position} :
    left.le right = true ↔ left.lt right = true ∨ left = right := by
  unfold Position.le
  rw [Bool.or_eq_true, decide_eq_true_iff]

namespace LineIndex

variable {index : LineIndex} {offset first second : Nat}

/-- The breaks that stand at an offset or in front of it. -/
def passed (index : LineIndex) (offset : Nat) : List Nat :=
  index.breaks.takeWhile (· ≤ offset)

/-- Where the line begins that an offset is on. -/
def lineStart (index : LineIndex) (offset : Nat) : Nat := (index.passed offset).getLastD 0

theorem position_at_inside (inside : offset ≤ index.length) :
    index.positionAt offset =
      ⟨(index.passed offset).length, (offset - index.lineStart offset : Nat)⟩ := by
  have same : index.clamp offset = offset := Nat.min_eq_left inside
  unfold positionAt
  rw [same]
  rfl

theorem le_of_passed {start : Nat} (among : start ∈ index.passed offset) : start ≤ offset :=
  of_decide_eq_true (List.mem_takeWhile_imp (p := fun start => decide (start ≤ offset)) among)

theorem line_start_le (index : LineIndex) (offset : Nat) : index.lineStart offset ≤ offset := by
  unfold lineStart
  rw [List.getLastD_eq_getLast?]
  cases last : (index.passed offset).getLast? with
  | none => exact Nat.zero_le offset
  | some start => exact le_of_passed (List.mem_of_getLast? last)

theorem passed_prefix (index : LineIndex) (upTo : first ≤ second) :
    index.passed first <+: index.passed second := by
  have again : (index.passed second).takeWhile (· ≤ first) = index.passed first := by
    unfold passed
    rw [List.takeWhile_takeWhile]
    congr 1
    funext start
    simp only [decide_eq_true_eq, decide_eq_decide]
    exact and_iff_left_of_imp fun before => Nat.le_trans before upTo
  rw [← again]
  exact List.takeWhile_prefix _

theorem position_at_lt (inside : second ≤ index.length) (before : first < second) :
    (index.positionAt first).lt (index.positionAt second) = true := by
  have upTo : first ≤ index.length := Nat.le_trans (Nat.le_of_lt before) inside
  rw [position_at_inside upTo, position_at_inside inside, Position.lt_iff]
  obtain ⟨between, same⟩ := index.passed_prefix (Nat.le_of_lt before)
  cases between with
  | nil =>
      -- No break lies between the two.
      rw [List.append_nil] at same
      have start : index.lineStart first = index.lineStart second := by
        unfold lineStart
        rw [same]
      have begun := index.line_start_le first
      apply Or.inr
      constructor
      · rw [same]
      · rw [← start]
        dsimp only
        omega
  | cons start between =>
      apply Or.inl
      rw [← same, List.length_append, List.length_cons]
      dsimp only
      omega

theorem position_at_le (inside : second ≤ index.length) (upTo : first ≤ second) :
    (index.positionAt first).le (index.positionAt second) = true := by
  rw [Position.le_iff]
  rcases Nat.eq_or_lt_of_le upTo with rfl | before
  · exact Or.inr rfl
  · exact Or.inl (position_at_lt inside before)

end LineIndex

end Dimming
