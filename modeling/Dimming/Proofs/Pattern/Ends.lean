import Dimming.Pattern.Basic
import Mathlib.Data.List.Basic

/-!
# Ends of a match

Where the matches of a pattern can end, and how a repetition unfolds round by round. A run of
single points in front of what cannot begin at any of them ends in one way only, behind the
longest run: the shorter ones are tried in vain.
-/

set_option autoImplicit false

namespace Dimming

namespace Pattern

variable {text : Array CodePoint}

/-- An offset that a match can lead to: further on inside the text, or the same one. -/
def Onward (text : Array CodePoint) (offset stop : Nat) : Prop :=
  offset ≤ stop ∧ (stop ≤ text.size ∨ stop = offset)

theorem onward_trans {first second third : Nat} (one : Onward text first second)
    (other : Onward text second third) : Onward text first third := by
  unfold Onward at *
  omega

section Rounds

variable {body : Nat → List Nat}
variable (onward : ∀ offset, ∀ stop ∈ body offset, Onward text offset stop)

include onward

theorem rounds_onward (fuel offset : Nat) :
    ∀ stop ∈ endsOfRounds body fuel offset, Onward text offset stop := by
  induction fuel generalizing offset with
  | zero =>
      intro stop reached
      rw [endsOfRounds, List.mem_singleton] at reached
      simp [Onward, reached]
  | succ fuel ih =>
      intro stop reached
      rw [endsOfRounds, List.mem_append, List.mem_singleton, List.mem_flatMap] at reached
      rcases reached with ⟨between, inside, later⟩ | rfl
      · have first := onward offset between (List.mem_filter.1 inside).1
        exact onward_trans first (ih between stop later)
      · simp [Onward]

/-- One more round than there are points left makes no difference. -/
theorem rounds_succ {fuel offset : Nat} (enough : text.size - offset ≤ fuel) :
    endsOfRounds body (fuel + 1) offset = endsOfRounds body fuel offset := by
  induction fuel generalizing offset with
  | zero =>
      have nothing : (body offset).filter (offset < ·) = [] := by
        apply List.filter_eq_nil_iff.2
        intro stop reached
        have bounds := onward offset stop reached
        unfold Onward at bounds
        simp only [decide_eq_true_eq]
        omega
      change ((body offset).filter (offset < ·)).flatMap _ ++ [offset] = [offset]
      rw [nothing]
      rfl
  | succ fuel ih =>
      have same : ∀ stop ∈ (body offset).filter (offset < ·),
          endsOfRounds body (fuel + 1) stop = endsOfRounds body fuel stop := by
        intro stop inside
        have further := (List.mem_filter.1 inside).2
        simp only [decide_eq_true_eq] at further
        apply ih
        omega
      rw [endsOfRounds, List.flatMap_congr same]
      rfl

theorem rounds_of_enough {fuel offset : Nat} (enough : text.size - offset ≤ fuel) :
    endsOfRounds body fuel offset = endsOfRounds body (text.size - offset) offset := by
  induction enough with
  | refl => rfl
  | step enough ih => rw [rounds_succ onward enough, ih]

end Rounds

theorem ends_onward (pattern : Pattern) (offset : Nat) :
    ∀ stop ∈ ends text pattern offset, Onward text offset stop := by
  induction pattern generalizing offset with
  | empty =>
      intro stop reached
      rw [ends, List.mem_singleton] at reached
      simp [Onward, reached]
  | one accepts =>
      intro stop reached
      unfold ends at reached
      split at reached
      next point here =>
        have inside := (Array.getElem?_eq_some_iff.1 here).1
        split at reached
        · rw [List.mem_singleton] at reached
          unfold Onward
          omega
        · cases reached
      next => cases reached
  | sequence first second firstOnward secondOnward =>
      intro stop reached
      rw [ends, List.mem_flatMap] at reached
      obtain ⟨between, begun, finished⟩ := reached
      exact onward_trans (firstOnward offset between begun) (secondOnward between stop finished)
  | choice first second firstOnward secondOnward =>
      intro stop reached
      rw [ends, List.mem_append] at reached
      exact reached.elim (firstOnward offset stop) (secondOnward offset stop)
  | repeated body onward => exact rounds_onward onward _ offset
  | condition holds =>
      intro stop reached
      unfold ends at reached
      split at reached
      · rw [List.mem_singleton] at reached
        simp [Onward, reached]
      · cases reached

theorem ends_repeated (body : Pattern) (offset : Nat) :
    ends text (.repeated body) offset =
      ((ends text body offset).filter (offset < ·)).flatMap (ends text (.repeated body)) ++
        [offset] := by
  have onward : ∀ offset, ∀ stop ∈ ends text body offset, Onward text offset stop :=
    ends_onward body
  have same : ∀ stop ∈ (ends text body offset).filter (offset < ·),
      endsOfRounds (ends text body) (text.size - offset) stop =
        ends text (.repeated body) stop := by
    intro stop inside
    have further := (List.mem_filter.1 inside).2
    simp only [decide_eq_true_eq] at further
    apply rounds_of_enough onward
    omega
  rw [ends, ← rounds_succ onward (Nat.le_refl _), endsOfRounds, List.flatMap_congr same]

theorem ends_repeated_sequence (body rest : Pattern) (offset : Nat) :
    ends text (.sequence (.repeated body) rest) offset =
      ((ends text body offset).filter (offset < ·)).flatMap
        (ends text (.sequence (.repeated body) rest)) ++ ends text rest offset := by
  rw [ends, ends_repeated, List.flatMap_append, List.flatMap_assoc, List.flatMap_singleton]
  rfl

theorem ends_sequence_assoc (first second third : Pattern) (offset : Nat) :
    ends text (.sequence (.sequence first second) third) offset =
      ends text (.sequence first (.sequence second third)) offset := by
  simp only [ends, List.flatMap_assoc]

theorem ends_sequence_empty (pattern : Pattern) (offset : Nat) :
    ends text (.sequence pattern .empty) offset = ends text pattern offset := by
  simp only [ends, List.flatMap_singleton']

theorem drop_of_point {offset : Nat} {point : CodePoint} (here : text[offset]? = some point) :
    text.toList.drop offset = point :: text.toList.drop (offset + 1) := by
  rw [List.drop_eq_getElem?_toList_append, Array.getElem?_toList, here]
  rfl

theorem drop_of_end {offset : Nat} (here : text[offset]? = none) :
    text.toList.drop offset = [] :=
  List.drop_eq_nil_of_le (Array.getElem?_eq_none_iff.1 here)

theorem ends_one_sequence (accepts : CodePoint → Bool) (rest : Pattern) (offset : Nat) :
    ends text (.sequence (.one accepts) rest) offset =
      if text[offset]?.any accepts then ends text rest (offset + 1) else [] := by
  simp only [ends]
  cases text[offset]? with
  | none => rfl
  | some point =>
      simp only [Option.any_some]
      split <;> simp

theorem ends_condition_sequence (holds : Option CodePoint → Option CodePoint → Bool)
    (rest : Pattern) (offset : Nat) :
    ends text (.sequence (.condition holds) rest) offset =
      if holds (before? text offset) text[offset]? then ends text rest offset else [] := by
  simp only [ends]
  split <;> simp

theorem ends_literal_sequence (word : Text) (rest : Pattern) (offset : Nat) :
    ends text (.sequence (literal word) rest) offset =
      if word <+: text.toList.drop offset then ends text rest (offset + word.length) else [] := by
  induction word generalizing offset with
  | nil => simp [literal, ends]
  | cons point word ih =>
      change ends text (.sequence (.sequence (.one (· = point)) (literal word)) rest) offset = _
      rw [ends_sequence_assoc, ends_one_sequence, ih]
      cases here : text[offset]? with
      | none =>
          rw [drop_of_end here]
          simp
      | some found =>
          rw [drop_of_point here]
          by_cases same : found = point
          · subst same
            simp [Nat.add_assoc, Nat.add_comm 1]
          · have apart : ¬point = found := fun equal => same equal.symm
            simp [same, apart]

theorem ends_point_sequence (point : CodePoint) (rest : Pattern) (offset : Nat) :
    ends text (.sequence (literal [point]) rest) offset =
      if text[offset]? = some point then ends text rest (offset + 1) else [] := by
  change ends text (.sequence (.sequence (.one (· = point)) .empty) rest) offset = _
  rw [ends_sequence_assoc, ends_one_sequence]
  cases text[offset]? with
  | none => rfl
  | some found => simp [ends]

section Runs

/-- Where the longest run of accepted points ends that begins at an offset. -/
def pastRun (text : Array CodePoint) (accepts : CodePoint → Bool) (offset : Nat) : Nat :=
  offset + ((text.toList.drop offset).takeWhile accepts).length

variable {accepts : CodePoint → Bool} {offset : Nat} {point : CodePoint}

theorem le_past_run (accepts : CodePoint → Bool) (offset : Nat) :
    offset ≤ pastRun text accepts offset :=
  Nat.le_add_right _ _

theorem past_run_of_accepted (here : text[offset]? = some point)
    (accepted : accepts point = true) :
    pastRun text accepts offset = pastRun text accepts (offset + 1) := by
  unfold pastRun
  rw [drop_of_point here, List.takeWhile_cons, if_pos accepted, List.length_cons]
  omega

theorem past_run_of_refused
    (refused : ∀ point, text[offset]? = some point → accepts point = false) :
    pastRun text accepts offset = offset := by
  unfold pastRun
  cases here : text[offset]? with
  | none =>
      rw [drop_of_end here]
      rfl
  | some point =>
      rw [drop_of_point here, List.takeWhile_cons, refused point here]
      rfl

/-- What holds at the end of a run, and carries over to the point in front, holds everywhere. -/
theorem run_induction (text : Array CodePoint) (accepts : CodePoint → Bool)
    {motive : Nat → Prop}
    (stops : ∀ offset, (∀ point, text[offset]? = some point → accepts point = false) →
      motive offset)
    (goes : ∀ offset point, text[offset]? = some point → accepts point = true →
      motive (offset + 1) → motive offset) (offset : Nat) : motive offset := by
  induction left : text.size - offset using Nat.strongRecOn generalizing offset with
  | ind left ih =>
      cases here : text[offset]? with
      | none => exact stops offset fun point found => by rw [here] at found; cases found
      | some point =>
          have inside := (Array.getElem?_eq_some_iff.1 here).1
          by_cases accepted : accepts point = true
          · exact goes offset point here accepted (ih _ (by omega) (offset + 1) rfl)
          · apply stops
            intro other found
            rw [here] at found
            cases found
            simpa using accepted

theorem past_run_refused (accepts : CodePoint → Bool) (offset : Nat) :
    ∀ point, text[pastRun text accepts offset]? = some point → accepts point = false := by
  induction offset using run_induction text accepts with
  | stops offset refused =>
      rw [past_run_of_refused refused]
      exact refused
  | goes offset point here accepted ih =>
      rw [past_run_of_accepted here accepted]
      exact ih

def AllBetween (text : Array CodePoint) (accepts : CodePoint → Bool) (start stop : Nat) : Prop :=
  ∀ place, start ≤ place → place < stop → text[place]?.any accepts = true

theorem all_between_past_run (accepts : CodePoint → Bool) (offset : Nat) :
    AllBetween text accepts offset (pastRun text accepts offset) := by
  induction offset using run_induction text accepts with
  | stops offset refused =>
      rw [past_run_of_refused refused]
      intro place after before
      omega
  | goes offset point here accepted ih =>
      rw [past_run_of_accepted here accepted]
      intro place after before
      rcases Nat.eq_or_lt_of_le after with rfl | after
      · rw [here]
        exact accepted
      · exact ih place after before

theorem past_run_eq {start stop : Nat} (before : start ≤ stop)
    (inside : AllBetween text accepts start stop)
    (refused : ∀ point, text[stop]? = some point → accepts point = false) :
    pastRun text accepts start = stop := by
  obtain ⟨length, rfl⟩ := Nat.exists_eq_add_of_le before
  induction length generalizing start with
  | zero => exact past_run_of_refused refused
  | succ length ih =>
      have first := inside start (Nat.le_refl start) (by omega)
      obtain ⟨point, here, accepted⟩ := (Option.any_eq_true _ _).1 first
      have shifted : start + (length + 1) = start + 1 + length := by omega
      rw [past_run_of_accepted here accepted, shifted]
      apply ih (Nat.le_add_right _ _)
      · intro place after upTo
        exact inside place (by omega) (by omega)
      · rw [← shifted]
        exact refused

theorem ends_one_of_accepted (here : text[offset]? = some point)
    (accepted : accepts point = true) : ends text (.one accepts) offset = [offset + 1] := by
  simp [ends, here, accepted]

theorem ends_one_of_refused
    (refused : ∀ point, text[offset]? = some point → accepts point = false) :
    ends text (.one accepts) offset = [] := by
  cases here : text[offset]? with
  | none => simp [ends, here]
  | some point => simp [ends, here, refused point here]

/-- In front of what cannot begin at an accepted point, a run takes all it can get. -/
theorem ends_run_sequence {rest : Pattern}
    (refuses : ∀ offset point, text[offset]? = some point → accepts point = true →
      ends text rest offset = []) (offset : Nat) :
    ends text (.sequence (.repeated (.one accepts)) rest) offset =
      ends text rest (pastRun text accepts offset) := by
  induction offset using run_induction text accepts with
  | stops offset refused =>
      rw [ends_repeated_sequence, ends_one_of_refused refused, past_run_of_refused refused]
      rfl
  | goes offset point here accepted ih =>
      rw [ends_repeated_sequence, ends_one_of_accepted here accepted,
        List.filter_cons_of_pos (by simp), List.filter_nil, List.flatMap_singleton, ih,
        refuses offset point here accepted, List.append_nil, past_run_of_accepted here accepted]

end Runs

end Pattern

end Dimming
