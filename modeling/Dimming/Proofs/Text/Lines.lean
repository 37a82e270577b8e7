import Dimming.Proofs.Position

/-!
# Places in the lines of a text

The pieces of a text between its line feeds, put together again, are the text. Where only line feeds
end a line, the line and the column of an offset tell what stands in front of it: the pieces in front
of its own, each with the line feed that ends it, and as much of its own piece as the column says.
-/

set_option autoImplicit false

namespace Dimming

namespace Text

theorem split_eq_split_on (separator : CodePoint) (text : Text) :
    split separator text = text.splitOn separator := by
  induction text with
  | nil => rfl
  | cons point rest ih =>
      rw [List.splitOn_eq_splitOnP, List.splitOnP_cons_eq_if_modifyHead,
        ← List.splitOn_eq_splitOnP, split, ih]
      cases pieces : rest.splitOn separator with
      | nil => exact absurd pieces (List.splitOn_ne_nil separator rest)
      | cons piece pieces => simp [List.modifyHead]

theorem join_split (separator : CodePoint) (text : Text) :
    join [separator] (split separator text) = text := by
  rw [split_eq_split_on]
  exact List.intercalate_splitOn separator

theorem exists_split (separator : CodePoint) (text : Text) :
    ∃ piece pieces, split separator text = piece :: pieces :=
  List.exists_cons_of_ne_nil (split_eq_split_on separator text ▸ List.splitOn_ne_nil separator text)

theorem split_cons_separator (separator : CodePoint) (rest : Text) :
    split separator (separator :: rest) = [] :: split separator rest := by
  obtain ⟨piece, pieces, cut⟩ := exists_split separator rest
  rw [split, cut]
  exact if_pos rfl

theorem split_cons_other {separator point : CodePoint} (other : point ≠ separator) {rest piece : Text}
    {pieces : List Text} (cut : split separator rest = piece :: pieces) :
    split separator (point :: rest) = (point :: piece) :: pieces := by
  rw [split, cut]
  exact if_neg other

def ended : List Text → Text
  | [] => []
  | line :: lines => line ++ CodePoint.ofChar '\n' :: ended lines

/-- An offset of a text stands in a line of it, behind so many points of the line. -/
structure StandsAt (text : Text) (offset line column : Nat) (content : Text) : Prop where
  found : (split '\n' text)[line]? = some content
  before : text.take offset = ended ((split '\n' text).take line) ++ content.take column

namespace StandsAt

variable {text rest content : Text} {point : CodePoint} {offset line column : Nat}

theorem at_start (text : Text) : ∃ content, StandsAt text 0 0 0 content := by
  obtain ⟨piece, pieces, cut⟩ := exists_split '\n' text
  exact ⟨piece, by rw [cut]; rfl, by rw [List.take_zero, List.take_zero, List.take_zero]; rfl⟩

theorem behind_feed (stands : StandsAt rest offset line column content) :
    StandsAt ('\n' :: rest) (offset + 1) (line + 1) column content where
  found := by
    rw [split_cons_separator]
    exact stands.found
  before := by
    rw [split_cons_separator, List.take_succ_cons, List.take_succ_cons, stands.before]
    rfl

theorem in_first_line (other : point ≠ '\n') (stands : StandsAt rest offset 0 column content) :
    StandsAt (point :: rest) (offset + 1) 0 (column + 1) (point :: content) := by
  obtain ⟨piece, pieces, cut⟩ := exists_split '\n' rest
  obtain ⟨found, before⟩ := stands
  rw [cut] at found before
  cases found
  constructor
  · rw [split_cons_other other cut]
    rfl
  · rw [List.take_succ_cons, List.take_succ_cons, before, List.take_zero, List.take_zero]
    rfl

theorem in_later_line (other : point ≠ '\n') (stands : StandsAt rest offset (line + 1) column content) :
    StandsAt (point :: rest) (offset + 1) (line + 1) column content := by
  obtain ⟨piece, pieces, cut⟩ := exists_split '\n' rest
  obtain ⟨found, before⟩ := stands
  rw [cut] at found before
  constructor
  · rw [split_cons_other other cut]
    exact found
  · rw [split_cons_other other cut, List.take_succ_cons, List.take_succ_cons, before]
    rfl

end StandsAt

end Text

namespace LineIndex

open Dimming.Text

variable {text : Text} {offset : Nat}

theorem breaks_from_later (start : Nat) (text : Text) :
    ∀ mark ∈ breaksFrom start text, start < mark := by
  induction text generalizing start with
  | nil => exact fun _ absent => absurd absent List.not_mem_nil
  | cons point rest ih =>
      have behind : ∀ mark ∈ breaksFrom (start + 1) rest, start < mark := fun mark among =>
        Nat.lt_of_succ_lt (ih (start + 1) mark among)
      rw [breaksFrom]
      split
      · exact List.forall_mem_cons.2 ⟨Nat.lt_succ_self start, behind⟩
      · exact behind

theorem breaks_from_feed (start : Nat) (rest : Text) :
    breaksFrom start ('\n' :: rest) = (start + 1) :: breaksFrom (start + 1) rest := by
  simp [breaksFrom]

theorem breaks_from_other {point : CodePoint} (start : Nat) {rest : Text} (notFeed : point ≠ '\n')
    (notReturn : point ≠ '\r') :
    breaksFrom start (point :: rest) = breaksFrom (start + 1) rest := by
  simp [breaksFrom, notFeed, notReturn]

/-- The breaks that an offset counted from the beginning of a later part has passed. -/
theorem none_passed_at_start (start : Nat) (text : Text) :
    (breaksFrom start text).takeWhile (· ≤ start) = [] := by
  rw [List.takeWhile_eq_nil_iff]
  intro nonempty
  have later := breaks_from_later start text _ (List.getElem_mem nonempty)
  simpa using later

theorem stands_behind_breaks (start : Nat) (noReturn : CodePoint.ofChar '\r' ∉ text)
    (inside : offset ≤ text.length) :
    let passed := (breaksFrom start text).takeWhile (· ≤ start + offset)
    ∃ content, StandsAt text offset passed.length (start + offset - passed.getLastD start) content := by
  induction text generalizing start offset with
  | nil =>
      obtain rfl : offset = 0 := Nat.le_zero.1 inside
      rw [Nat.add_zero, none_passed_at_start]
      simpa using StandsAt.at_start []
  | cons point rest ih =>
      obtain ⟨notReturn, noReturn⟩ := not_or.1 (mt List.mem_cons.2 noReturn)
      cases offset with
      | zero =>
          rw [Nat.add_zero, none_passed_at_start]
          simpa using StandsAt.at_start (point :: rest)
      | succ offset =>
          obtain ⟨content, stands⟩ := ih (start + 1) noReturn (Nat.le_of_succ_le_succ inside)
          have further : start + 1 + offset = start + (offset + 1) := by omega
          rw [further] at stands
          by_cases feed : point = '\n'
          · subst feed
            have passes : decide (start + 1 ≤ start + (offset + 1)) = true := by simp
            refine ⟨content, ?_⟩
            rw [breaks_from_feed, List.takeWhile_cons, if_pos passes, List.getLastD_cons,
              List.length_cons]
            exact stands.behind_feed
          · rw [breaks_from_other start feed (Ne.symm notReturn)]
            revert stands
            cases (breaksFrom (start + 1) rest).takeWhile (· ≤ start + (offset + 1)) with
            | nil =>
                intro stands
                have column : start + (offset + 1) - start = start + (offset + 1) - (start + 1) + 1 := by
                  omega
                refine ⟨point :: content, ?_⟩
                change StandsAt _ _ 0 (start + (offset + 1) - start) _
                rw [column]
                exact stands.in_first_line feed
            | cons first others =>
                intro stands
                exact ⟨content, stands.in_later_line feed⟩

theorem stands_at_position (noReturn : CodePoint.ofChar '\r' ∉ text) (inside : offset ≤ text.length) :
    ∃ line column content, (ofText text).positionAt offset = ⟨(line : Nat), (column : Nat)⟩ ∧
      StandsAt text offset line column content := by
  obtain ⟨content, stands⟩ := stands_behind_breaks 0 noReturn inside
  rw [Nat.zero_add] at stands
  exact ⟨_, _, content, position_at_inside inside, stands⟩

end LineIndex

end Dimming
