import Dimming.Proofs.Pattern.Ends
import Dimming.Statement.Dialect

/-!
# Parenthesised arguments

Arguments in parentheses that nest one level deep are found by counting: the group is closed
where as many parentheses have been closed as were opened, and it is none if a third one opens
on the way. The pattern for them, with all the ways in which it could be tried, has that one
end and no other.
-/

set_option autoImplicit false

namespace Dimming

namespace Statement

open Pattern

def opening : CodePoint := '('

def closing : CodePoint := ')'

def isParenthesis (point : CodePoint) : Bool := point = opening || point = closing

/-- How many points it takes until all of the open groups are closed, if at no time more than
two are open. -/
def closing? : Nat → List CodePoint → Option Nat
  | _, [] => none
  | depth, point :: rest =>
      if point = opening then if depth < 2 then (closing? (depth + 1) rest).map (· + 1) else none
      else if point = closing then
        if depth ≤ 1 then some 1 else (closing? (depth - 1) rest).map (· + 1)
      else (closing? depth rest).map (· + 1)

def closedFrom? (text : Array CodePoint) (depth offset : Nat) : Option Nat :=
  (closing? depth (text.toList.drop offset)).map (offset + ·)

def groupEnd? (text : Array CodePoint) (offset : Nat) : Option Nat :=
  if text[offset]? = some opening then closedFrom? text 1 (offset + 1) else none

section Counting

variable {text : Array CodePoint} {depth offset : Nat} {point : CodePoint}

theorem closed_from_end (here : text[offset]? = none) : closedFrom? text depth offset = none := by
  unfold closedFrom?
  rw [drop_of_end here]
  rfl

theorem map_add_one (found : Option Nat) (offset : Nat) :
    (found.map (· + 1)).map (offset + ·) = found.map (offset + 1 + ·) := by
  cases found with
  | none => rfl
  | some count => simp [Nat.add_assoc, Nat.add_comm 1]

theorem closed_from_open (here : text[offset]? = some opening) (room : depth < 2) :
    closedFrom? text depth offset = closedFrom? text (depth + 1) (offset + 1) := by
  unfold closedFrom?
  rw [drop_of_point here, closing?, if_pos rfl, if_pos room, map_add_one]

theorem closed_from_open_full (here : text[offset]? = some opening) (full : ¬depth < 2) :
    closedFrom? text depth offset = none := by
  unfold closedFrom?
  rw [drop_of_point here, closing?, if_pos rfl, if_neg full]
  rfl

theorem closed_from_close_last (here : text[offset]? = some closing) :
    closedFrom? text 1 offset = some (offset + 1) := by
  unfold closedFrom?
  rw [drop_of_point here, closing?, if_neg (by decide), if_pos rfl, if_pos (Nat.le_refl 1)]
  rfl

theorem closed_from_close (here : text[offset]? = some closing) :
    closedFrom? text (depth + 2) offset = closedFrom? text (depth + 1) (offset + 1) := by
  unfold closedFrom?
  rw [drop_of_point here, closing?, if_neg (by decide), if_pos rfl, if_neg (by omega), map_add_one]
  rfl

theorem closed_from_other (here : text[offset]? = some point)
    (other : isParenthesis point = false) :
    closedFrom? text depth offset = closedFrom? text depth (offset + 1) := by
  unfold isParenthesis at other
  simp only [Bool.or_eq_false_iff, decide_eq_false_iff_not] at other
  unfold closedFrom?
  rw [drop_of_point here, closing?, if_neg other.1, if_neg other.2, map_add_one]

def nextParenthesis (text : Array CodePoint) (offset : Nat) : Nat :=
  pastRun text (fun point => !(Text.ofString "()").contains point) offset

theorem excluded_eq (point : CodePoint) :
    (Text.ofString "()").contains point = isParenthesis point := by
  change [opening, closing].contains point = _
  simp [isParenthesis]

theorem next_parenthesis_spec (offset : Nat) :
    ∀ point, text[nextParenthesis text offset]? = some point → isParenthesis point = true := by
  intro point here
  have refused := past_run_refused _ offset point here
  rw [excluded_eq] at refused
  simpa using refused

theorem closed_from_next (depth offset : Nat) :
    closedFrom? text depth (nextParenthesis text offset) = closedFrom? text depth offset := by
  unfold nextParenthesis
  induction offset using
      run_induction text fun point => !(Text.ofString "()").contains point with
  | stops offset refused => rw [past_run_of_refused refused]
  | goes offset point here accepted ih =>
      have other : isParenthesis point = false := by
        rw [excluded_eq] at accepted
        simpa using accepted
      rw [past_run_of_accepted here accepted, ih, closed_from_other here other]

theorem closed_from_two (offset : Nat) :
    closedFrom? text 2 offset =
      if text[nextParenthesis text offset]? = some closing then
        closedFrom? text 1 (nextParenthesis text offset + 1)
      else none := by
  rw [← closed_from_next]
  cases next : text[nextParenthesis text offset]? with
  | none => exact closed_from_end next
  | some point =>
      have parenthesis := next_parenthesis_spec offset point next
      unfold isParenthesis at parenthesis
      simp only [Bool.or_eq_true, decide_eq_true_eq] at parenthesis
      rcases parenthesis with rfl | rfl
      · have apart : some opening ≠ some closing := by decide
        rw [if_neg apart, closed_from_open_full next (by decide)]
      · rw [if_pos rfl, closed_from_close next]

end Counting

section Ends

variable {text : Array CodePoint}

theorem ends_without_parentheses {rest : Pattern}
    (refuses : ∀ offset point, text[offset]? = some point → isParenthesis point = false →
      ends text rest offset = []) (offset : Nat) :
    ends text (.sequence (runWithout "()") rest) offset =
      ends text rest (nextParenthesis text offset) := by
  refine ends_run_sequence (fun offset point here accepted => ?_) offset
  apply refuses offset point here
  rw [excluded_eq] at accepted
  simpa using accepted

theorem ends_closing (offset : Nat) :
    ends text (.sequence (literal ")") .empty) offset =
      if text[offset]? = some closing then [offset + 1] else [] :=
  ends_point_sequence closing .empty offset

theorem ends_flat_group (offset : Nat) :
    ends text flatGroup offset =
      if text[offset]? = some opening then
        if text[nextParenthesis text (offset + 1)]? = some closing then
          [nextParenthesis text (offset + 1) + 1]
        else []
      else [] := by
  change ends text (.sequence (literal [opening]) (.sequence (runWithout "()")
    (.sequence (literal ")") .empty))) offset = _
  rw [ends_point_sequence, ends_without_parentheses, ends_closing]
  intro offset point here other
  rw [ends_closing, here, if_neg]
  intro same
  cases same
  cases other

/-- What is left of the arguments at a parenthesis, or at the end of the text. -/
def groupRest : Pattern :=
  .sequence (.repeated (.sequence flatGroup (runWithout "()"))) (.sequence (literal ")") .empty)

theorem group_rest_refuses (offset : Nat) (point : CodePoint) (here : text[offset]? = some point)
    (other : isParenthesis point = false) : ends text groupRest offset = [] := by
  have notOpening : point ≠ opening := by
    rintro rfl
    cases other
  have notClosing : point ≠ closing := by
    rintro rfl
    cases other
  unfold groupRest
  rw [ends_repeated_sequence, ends_closing, ends, ends_flat_group]
  simp [here, notOpening, notClosing]

/-- A flat group is passed over as a whole; behind it the search is where it was before. -/
theorem ends_rest_of_flat (stop : Nat) :
    (ends text (runWithout "()") stop).flatMap (ends text groupRest) =
      ends text groupRest (nextParenthesis text stop) :=
  ends_without_parentheses group_rest_refuses stop

theorem ends_rounds_opened {offset : Nat} (later : ∀ stop, offset < stop →
      ends text groupRest (nextParenthesis text stop) =
        (closedFrom? text 1 (nextParenthesis text stop)).toList) :
    List.flatMap (ends text groupRest)
        (((if text[nextParenthesis text (offset + 1)]? = some closing then
          [nextParenthesis text (offset + 1) + 1] else []).flatMap
            (ends text (runWithout "()"))).filter (offset < ·)) =
      (closedFrom? text 2 (offset + 1)).toList := by
  have further : offset + 1 ≤ nextParenthesis text (offset + 1) := le_past_run _ _
  rw [closed_from_two]
  split
  · rw [List.flatMap_singleton, List.filter_eq_self.2, ends_rest_of_flat, later _ (by omega),
      closed_from_next]
    intro stop reached
    have onward := ends_onward _ _ stop reached
    unfold Onward at onward
    simp only [decide_eq_true_eq]
    omega
  · rfl

theorem ends_group_rest (offset : Nat) (atParenthesis : ∀ point, text[offset]? = some point →
      isParenthesis point = true) :
    ends text groupRest offset = (closedFrom? text 1 offset).toList := by
  -- By induction on what is left of the text, since a round passes a whole group at once.
  induction left : text.size - offset using Nat.strongRecOn generalizing offset with
  | ind left ih =>
      unfold groupRest
      rw [ends_repeated_sequence, ends_closing, ends, ends_flat_group]
      change List.flatMap (ends text groupRest) _ ++ _ = _
      cases here : text[offset]? with
      | none =>
          rw [closed_from_end here]
          simp
      | some point =>
          have inside := (Array.getElem?_eq_some_iff.1 here).1
          have parenthesis := atParenthesis point here
          unfold isParenthesis at parenthesis
          simp only [Bool.or_eq_true, decide_eq_true_eq] at parenthesis
          rcases parenthesis with rfl | rfl
          · have apart : some opening ≠ some closing := by decide
            rw [closed_from_open here (by decide), if_pos rfl, if_neg apart, List.append_nil]
            refine ends_rounds_opened fun stop further => ?_
            have onward : stop ≤ nextParenthesis text stop := le_past_run _ _
            exact ih _ (by omega) _ (next_parenthesis_spec stop) rfl
          · have apart : some closing ≠ some opening := by decide
            rw [closed_from_close_last here, if_neg apart, if_pos rfl]
            rfl

theorem ends_nested_arguments (offset : Nat) :
    ends text nestedArguments offset = (groupEnd? text offset).toList := by
  change ends text (.sequence (literal [opening]) (.sequence (runWithout "()") groupRest))
    offset = _
  rw [ends_point_sequence, ends_without_parentheses group_rest_refuses,
    ends_group_rest _ (next_parenthesis_spec (offset + 1)), closed_from_next]
  unfold groupEnd?
  split <;> rfl

end Ends

end Statement

end Dimming
