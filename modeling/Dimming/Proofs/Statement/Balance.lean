import Dimming.Proofs.Statement.Group

/-!
# Balance of parentheses

The balance of a stretch of text is the number of its opening parentheses less that of its
closing ones. A group ends where the balance counted from its opening parenthesis is at zero
for the first time, if it never was above two.
-/

set_option autoImplicit false

namespace Dimming

namespace Statement

open Pattern

def balance (points : List CodePoint) : Int :=
  (points.count opening : Int) - points.count closing

/-- The balance from an offset up to, and without, another one. -/
def balanceBetween (text : Array CodePoint) (start stop : Nat) : Int :=
  balance ((text.toList.drop start).take (stop - start))

/-- The balance counted from an offset is at zero again and was never above two. -/
structure Returns (text : Array CodePoint) (start stop : Nat) : Prop where
  later : start < stop
  inside : stop ≤ text.size
  back : balanceBetween text start stop = 0
  shallow : ∀ between, start ≤ between → between ≤ stop → balanceBetween text start between ≤ 2

/-- The first return of the balance. -/
structure ClosesAt (text : Array CodePoint) (start stop : Nat) : Prop
    extends Returns text start stop where
  first : ∀ between, start < between → between < stop → balanceBetween text start between ≠ 0

theorem exists_closes_iff (text : Array CodePoint) (start : Nat) :
    (∃ stop, ClosesAt text start stop) ↔ ∃ stop, Returns text start stop := by
  constructor
  · rintro ⟨stop, closes⟩
    exact ⟨stop, closes.toReturns⟩
  · rintro ⟨stop, returns⟩
    induction stop using Nat.strongRecOn with
    | ind stop ih =>
        by_cases earlier : ∃ between, start < between ∧ between < stop ∧
            balanceBetween text start between = 0
        · obtain ⟨between, later, before, back⟩ := earlier
          have inside := returns.inside
          refine ih between before ⟨later, by omega, back, fun inner after upTo => ?_⟩
          exact returns.shallow inner after (by omega)
        · exact ⟨stop, returns, fun between later before back =>
            earlier ⟨between, later, before, back⟩⟩

/-- The same for open groups and a number of points that are read. -/
structure Closes (depth : Int) (points : List CodePoint) (count : Nat) : Prop where
  inside : count ≤ points.length
  back : depth + balance (points.take count) = 0
  first : ∀ fewer, fewer < count → depth + balance (points.take fewer) ≠ 0
  shallow : ∀ fewer, fewer ≤ count → depth + balance (points.take fewer) ≤ 2

section Counting

variable {depth : Int} {point : CodePoint} {points rest : List CodePoint} {count : Nat}

theorem balance_opening (rest : List CodePoint) :
    balance (opening :: rest) = 1 + balance rest := by
  have apart : opening ≠ closing := by decide
  unfold balance
  rw [List.count_cons_self, List.count_cons_of_ne apart]
  omega

theorem balance_closing (rest : List CodePoint) :
    balance (closing :: rest) = -1 + balance rest := by
  have apart : closing ≠ opening := by decide
  unfold balance
  rw [List.count_cons_self, List.count_cons_of_ne apart]
  omega

theorem balance_other (other : isParenthesis point = false) (rest : List CodePoint) :
    balance (point :: rest) = 0 + balance rest := by
  unfold isParenthesis at other
  simp only [Bool.or_eq_false_iff, decide_eq_false_iff_not] at other
  unfold balance
  rw [List.count_cons_of_ne other.1, List.count_cons_of_ne other.2]
  omega

theorem closes_zero : Closes depth points 0 ↔ depth = 0 := by
  constructor
  · intro closes
    have back := closes.back
    simpa [balance] using back
  · rintro rfl
    exact ⟨Nat.zero_le _, rfl, fun fewer less => absurd less (Nat.not_lt_zero _),
      fun fewer atMost => by simp [Nat.le_zero.1 atMost, balance]⟩

theorem closes_succ {weight : Int} (step : ∀ rest, balance (point :: rest) = weight + balance rest) :
    Closes depth (point :: rest) (count + 1) ↔
      depth ≠ 0 ∧ depth ≤ 2 ∧ Closes (depth + weight) rest count := by
  constructor
  · intro closes
    refine ⟨?_, ?_, ?_⟩
    · have first := closes.first 0 (Nat.zero_lt_succ _)
      simpa [balance] using first
    · have shallow := closes.shallow 0 (Nat.zero_le _)
      simpa [balance] using shallow
    · refine ⟨Nat.le_of_succ_le_succ closes.inside, ?_, fun fewer less => ?_, fun fewer atMost => ?_⟩
      · have back := closes.back
        rw [List.take_succ_cons, step] at back
        omega
      · have first := closes.first (fewer + 1) (by omega)
        rw [List.take_succ_cons, step] at first
        omega
      · have shallow := closes.shallow (fewer + 1) (by omega)
        rw [List.take_succ_cons, step] at shallow
        omega
  · rintro ⟨opened, room, closes⟩
    refine ⟨Nat.succ_le_succ closes.inside, ?_, fun fewer less => ?_, fun fewer atMost => ?_⟩
    · have back := closes.back
      rw [List.take_succ_cons, step]
      omega
    · cases fewer with
      | zero => simpa [balance] using opened
      | succ fewer =>
          have first := closes.first fewer (by omega)
          rw [List.take_succ_cons, step]
          omega
    · cases fewer with
      | zero => simpa [balance] using room
      | succ fewer =>
          have shallow := closes.shallow fewer (by omega)
          rw [List.take_succ_cons, step]
          omega

theorem closes_flat : Closes 0 points count ↔ count = 0 := by
  constructor
  · intro closes
    by_contra some
    have first := closes.first 0 (Nat.pos_of_ne_zero some)
    simp [balance] at first
  · rintro rfl
    exact closes_zero.2 rfl

theorem map_succ_eq_some_iff (found : Option Nat) :
    found.map (· + 1) = some (count + 1) ↔ found = some count := by
  cases found <;> simp

theorem closing_ne_zero (depth : Nat) (points : List CodePoint) :
    closing? depth points ≠ some 0 := by
  have never (found : Option Nat) : found.map (· + 1) ≠ some 0 := by
    cases found <;> simp
  cases points with
  | nil => simp [closing?]
  | cons point rest =>
      unfold closing?
      split
      · split
        · exact never _
        · simp
      · split
        · split
          · simp
          · exact never _
        · exact never _

theorem closing_eq_some_iff {depth : Nat} (opened : 0 < depth) (room : depth ≤ 2) :
    closing? depth points = some count ↔ Closes depth points count := by
  -- The depth stays between one and two as long as the count goes on; at zero and at three it
  -- has ended, with and without a result.
  induction points generalizing depth count with
  | nil =>
      refine ⟨fun found => (by cases found), fun closes => ?_⟩
      have nothing := Nat.le_zero.1 closes.inside
      subst nothing
      have flat := closes_zero.1 closes
      omega
  | cons point rest ih =>
      cases count with
      | zero =>
          refine ⟨fun found => absurd found (closing_ne_zero _ _), fun closes => ?_⟩
          have flat := closes_zero.1 closes
          omega
      | succ count =>
          have notFlat : (depth : Int) ≠ 0 := by omega
          have notDeep : (depth : Int) ≤ 2 := by omega
          by_cases isOpening : point = opening
          · subst isOpening
            rw [closing?, if_pos rfl, closes_succ balance_opening]
            by_cases deeper : depth < 2
            · have cast : ((depth + 1 : Nat) : Int) = depth + 1 := by omega
              rw [if_pos deeper, map_succ_eq_some_iff, ih (by omega) (by omega), cast,
                and_iff_right notFlat, and_iff_right notDeep]
            · rw [if_neg deeper]
              refine ⟨fun found => (by cases found), fun more => ?_⟩
              have shallow := more.2.2.shallow 0 (Nat.zero_le _)
              simp only [List.take_zero, balance, List.count_nil] at shallow
              omega
          · by_cases isClosing : point = closing
            · subst isClosing
              rw [closing?, if_neg isOpening, if_pos rfl, closes_succ balance_closing]
              by_cases last : depth ≤ 1
              · obtain rfl : depth = 1 := by omega
                simp [closes_flat, eq_comm]
              · have cast : ((depth - 1 : Nat) : Int) = depth + -1 := by omega
                rw [if_neg last, map_succ_eq_some_iff, ih (by omega) (by omega), cast,
                  and_iff_right notFlat, and_iff_right notDeep]
            · have other : isParenthesis point = false := by
                simp [isParenthesis, isOpening, isClosing]
              rw [closing?, if_neg isOpening, if_neg isClosing, map_succ_eq_some_iff,
                ih opened room, closes_succ (balance_other other), Int.add_zero,
                and_iff_right notFlat, and_iff_right notDeep]

end Counting

section Groups

variable {text : Array CodePoint} {start stop : Nat}

theorem balance_between_opened (here : text[start]? = some opening) (fewer : Nat) :
    balanceBetween text start (start + 1 + fewer) =
      1 + balance ((text.toList.drop (start + 1)).take fewer) := by
  have length : start + 1 + fewer - start = fewer + 1 := by omega
  unfold balanceBetween
  rw [length, drop_of_point here, List.take_succ_cons, balance_opening]

theorem closes_at_iff (here : text[start]? = some opening) (count : Nat) :
    ClosesAt text start (start + 1 + count) ↔
      Closes 1 (text.toList.drop (start + 1)) count := by
  have length : (text.toList.drop (start + 1)).length = text.size - (start + 1) := by simp
  constructor
  · intro closes
    refine ⟨?_, ?_, fun fewer less => ?_, fun fewer atMost => ?_⟩
    · have inside := closes.inside
      omega
    · have back := closes.back
      rwa [balance_between_opened here] at back
    · have first := closes.first (start + 1 + fewer) (by omega) (by omega)
      rwa [balance_between_opened here] at first
    · have shallow := closes.shallow (start + 1 + fewer) (by omega) (by omega)
      rwa [balance_between_opened here] at shallow
  · intro closes
    have started := (Array.getElem?_eq_some_iff.1 here).1
    have inside := closes.inside
    refine ⟨⟨by omega, by omega, ?_, fun between after upTo => ?_⟩, fun between after before => ?_⟩
    · rw [balance_between_opened here]
      exact closes.back
    · rcases Nat.eq_or_lt_of_le after with rfl | after
      · simp [balanceBetween, balance]
      · obtain ⟨fewer, rfl⟩ := Nat.exists_eq_add_of_le after
        rw [Nat.succ_eq_add_one, balance_between_opened here]
        exact closes.shallow fewer (by omega)
    · obtain ⟨fewer, rfl⟩ := Nat.exists_eq_add_of_le after
      rw [Nat.succ_eq_add_one, balance_between_opened here]
      exact closes.first fewer (by omega)

theorem group_end_eq_some_iff :
    groupEnd? text start = some stop ↔ text[start]? = some opening ∧ ClosesAt text start stop := by
  unfold groupEnd?
  by_cases here : text[start]? = some opening
  · rw [if_pos here, and_iff_right here]
    unfold closedFrom?
    rw [Option.map_eq_some_iff]
    constructor
    · rintro ⟨count, found, rfl⟩
      exact (closes_at_iff here count).2 ((closing_eq_some_iff (by decide) (by decide)).1 found)
    · intro closes
      obtain ⟨count, rfl⟩ := Nat.exists_eq_add_of_le closes.later
      have counted := (closes_at_iff here count).1 closes
      exact ⟨count, (closing_eq_some_iff (by decide) (by decide)).2 counted, rfl⟩
  · rw [if_neg here]
    exact ⟨fun found => (by cases found), fun both => absurd both.1 here⟩

end Groups

end Statement

end Dimming
