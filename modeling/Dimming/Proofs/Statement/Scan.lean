import Dimming.Proofs.Statement.Chain

/-!
# Scan for a statement

A logging statement is a receiver with a chain of calls, and a semicolon behind it if there is
one. The patterns for it find exactly what a scan finds that reads from left to right and never
goes back, and so exactly what a description of such statements says that speaks of balances
of parentheses only.
-/

set_option autoImplicit false

namespace Dimming

namespace Statement

open Pattern

def receivers : List Text := ["log", "Log"]

theorem general_eq : general = receivers.map chainOn := rfl

def semicolon : CodePoint := ';'

/-- Behind a semicolon, if one comes next. -/
def pastSemicolon (text : Array CodePoint) (offset : Nat) : Nat :=
  if text[offset]? = some semicolon then offset + 1 else offset

def statementEnd? (receiver : Text) (text : Array CodePoint) (offset : Nat) : Option Nat :=
  if isWordAt (before? text offset) = false ∧ receiver <+: text.toList.drop offset then
    (linkEnd? text (offset + receiver.length)).map fun first =>
      pastSemicolon text (pastLinks text first)
  else none

/-- The text reads a receiver that is not the end of a longer word, a point, a name, blanks and
at some place the parenthesis of a call. -/
structure Begins (receiver : Text) (text : Array CodePoint) (offset place : Nat) : Prop where
  apart : offset = 0 ∨ isWordAt text[offset - 1]? = false
  reads : receiver <+: text.toList.drop offset
  call : ∃ nameEnd, NamedCall text (offset + receiver.length) nameEnd place

section Scanned

variable {receiver : Text} {text : Array CodePoint} {offset stop : Nat}

theorem before_not_word_iff :
    isWordAt (before? text offset) = false ↔ offset = 0 ∨ isWordAt text[offset - 1]? = false := by
  cases offset with
  | zero => simp [before?, isWordAt]
  | succ offset => simp [before?]

theorem statement_end_eq_some_iff : statementEnd? receiver text offset = some stop ↔
    ∃ place first last, Begins receiver text offset place ∧ ClosesAt text place first ∧
      Chained text first last ∧ stop = pastSemicolon text last := by
  unfold statementEnd?
  constructor
  · intro found
    split at found
    next start =>
        obtain ⟨first, link, rfl⟩ := Option.map_eq_some_iff.1 found
        obtain ⟨nameEnd, place, call, closes⟩ := link_end_eq_some_iff.1 link
        have begins : Begins receiver text offset place :=
          ⟨before_not_word_iff.1 start.1, start.2, nameEnd, call⟩
        exact ⟨place, first, _, begins, closes, chained_past_links first, rfl⟩
    next => cases found
  · rintro ⟨place, first, last, begins, closes, chained, rfl⟩
    obtain ⟨nameEnd, call⟩ := begins.call
    have link : linkEnd? text (offset + receiver.length) = some first :=
      link_end_eq_some_iff.2 ⟨nameEnd, place, call, closes⟩
    rw [if_pos ⟨before_not_word_iff.2 begins.apart, begins.reads⟩, link,
      chained_iff.1 chained]
    rfl

theorem statement_found_iff : (statementEnd? receiver text offset).isSome = true ↔
    ∃ place, Begins receiver text offset place ∧ ∃ stop, Returns text place stop := by
  rw [Option.isSome_iff_exists]
  constructor
  · rintro ⟨stop, found⟩
    obtain ⟨place, first, last, begins, closes, -, -⟩ := statement_end_eq_some_iff.1 found
    exact ⟨place, begins, first, closes.toReturns⟩
  · rintro ⟨place, begins, returns⟩
    obtain ⟨first, closes⟩ := (exists_closes_iff text place).2 returns
    exact ⟨_, statement_end_eq_some_iff.2
      ⟨place, first, _, begins, closes, chained_past_links first, rfl⟩⟩

theorem ends_semicolon (offset : Nat) :
    ends text (.sequence optionalSemicolon .empty) offset =
      (if text[offset]? = some semicolon then [offset + 1] else []) ++ [offset] := by
  have point : ends text (literal [semicolon]) offset =
      if text[offset]? = some semicolon then [offset + 1] else [] := by
    rw [← ends_sequence_empty, ends_point_sequence]
    rfl
  rw [ends_sequence_empty]
  change ends text (literal [semicolon]) offset ++ [offset] = _
  rw [point]

theorem ends_semicolon_head (offset : Nat) :
    (ends text (.sequence optionalSemicolon .empty) offset).head? =
      some (pastSemicolon text offset) := by
  rw [ends_semicolon]
  unfold pastSemicolon
  split <;> rfl

theorem receiver_start (known : receiver ∈ receivers) :
    ∃ point rest, receiver = point :: rest ∧ point.isAsciiWord = true := by
  rcases List.mem_pair.1 known with rfl | rfl
  · exact ⟨_, _, rfl, by decide⟩
  · exact ⟨_, _, rfl, by decide⟩

/-- The boundary in front of a receiver only looks at what comes before. -/
theorem boundary_iff (known : receiver ∈ receivers)
    (here : receiver <+: text.toList.drop offset) :
    (isWordAt (before? text offset) != isWordAt text[offset]?) = true ↔
      isWordAt (before? text offset) = false := by
  obtain ⟨point, rest, rfl, word⟩ := receiver_start known
  obtain ⟨tail, same⟩ := here
  have first : text[offset]? = some point := by
    rw [← Array.getElem?_toList, ← List.head?_drop, ← same]
    rfl
  have isWord : isWordAt text[offset]? = true := by
    rw [first]
    exact word
  rw [isWord]
  cases isWordAt (before? text offset) <;> simp

theorem chain_end_at (known : receiver ∈ receivers) (text : Array CodePoint) (offset : Nat) :
    endAt? text (chainOn receiver) offset = statementEnd? receiver text offset := by
  have finished : ∀ offset, ends text (.sequence optionalSemicolon .empty) offset ≠ [] := by
    intro offset
    rw [ends_semicolon]
    simp
  rw [endAt?_eq_head?]
  change (ends text (.sequence (.condition _) (.sequence (literal receiver) (.sequence link
    (.sequence (.repeated link) (.sequence optionalSemicolon .empty))))) offset).head? = _
  rw [ends_condition_sequence, ends_literal_sequence, ends_link_sequence]
  unfold statementEnd?
  by_cases here : receiver <+: text.toList.drop offset
  · rw [if_pos here]
    by_cases boundary : isWordAt (before? text offset) = false
    · rw [if_pos ((boundary_iff known here).2 boundary), if_pos ⟨boundary, here⟩]
      cases linkEnd? text (offset + receiver.length) with
      | none => rfl
      | some first =>
          rw [Option.toList_some, List.flatMap_singleton, ends_links_sequence finished,
            ends_semicolon_head]
          rfl
    · have refused := mt (boundary_iff known here).1 boundary
      rw [if_neg refused, if_neg (mt And.left boundary)]
      rfl
  · rw [if_neg here, if_neg (mt And.right here), ite_self]
    rfl

/-- The patterns that are looked for in every language match what the scan finds. There is a
match if and only if a receiver, a point, a name, blanks and a parenthesis come first and the
balance from this parenthesis on returns to zero without being above two on the way. The match
ends behind the calls that are chained to this first one, and behind a semicolon. -/
theorem statement_matched_as_scanned (known : receiver ∈ receivers) (text : Array CodePoint)
    (offset : Nat) :
    endAt? text (chainOn receiver) offset = statementEnd? receiver text offset ∧
      ((endAt? text (chainOn receiver) offset).isSome = true ↔
        ∃ place, Begins receiver text offset place ∧ ∃ stop, Returns text place stop) ∧
      ∀ stop, endAt? text (chainOn receiver) offset = some stop ↔
        ∃ place first last, Begins receiver text offset place ∧ ClosesAt text place first ∧
          Chained text first last ∧ stop = pastSemicolon text last := by
  rw [chain_end_at known]
  exact ⟨rfl, statement_found_iff, fun stop => statement_end_eq_some_iff⟩

/-- The second call and the semicolon belong to the statement. -/
theorem statement_scanned_with_second_call : Text.ofString "log" ∈ receivers ∧
    endAt? (Text.ofString "a log.x(b()).y ();").toArray (chainOn "log") 2 = some 18 := by
  have known : Text.ofString "log" ∈ receivers := List.mem_cons_self
  have found : statementEnd? "log" (Text.ofString "a log.x(b()).y ();").toArray 2 = some 18 := by
    decide +kernel
  have scanned := statement_matched_as_scanned known
    (Text.ofString "a log.x(b()).y ();").toArray 2
  exact ⟨known, scanned.1.trans found⟩

end Scanned

end Statement

end Dimming
