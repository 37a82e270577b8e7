import Dimming.Proofs.Statement.Balance

/-!
# Chains of calls

A call is a point, a name, blanks and a group of parentheses. A chain is as many calls as there
are, each beginning where the one before has ended. The pattern for a call has no second way to
match it, and what comes behind a chain is first tried behind the longest.
-/

set_option autoImplicit false

namespace Dimming

namespace Statement

open Pattern

def dot : CodePoint := '.'

def callOpening (text : Array CodePoint) (offset : Nat) : Nat :=
  pastRun text CodePoint.isAsciiBlank (pastRun text CodePoint.isAsciiWord (offset + 1))

def linkEnd? (text : Array CodePoint) (offset : Nat) : Option Nat :=
  if text[offset]? = some dot ∧ isWordAt text[offset + 1]? = true then
    groupEnd? text (callOpening text offset)
  else none

/-- A point, a name up to an offset, blanks, and a parenthesis that is opened at another one. -/
structure NamedCall (text : Array CodePoint) (start nameEnd place : Nat) : Prop where
  dotted : text[start]? = some dot
  named : start + 1 < nameEnd
  name : AllBetween text CodePoint.isAsciiWord (start + 1) nameEnd
  apart : nameEnd ≤ place
  blank : AllBetween text CodePoint.isAsciiBlank nameEnd place
  opened : text[place]? = some opening

/-- A call that begins at an offset and whose group is closed in front of another one. -/
def LinkAt (text : Array CodePoint) (start stop : Nat) : Prop :=
  ∃ nameEnd place, NamedCall text start nameEnd place ∧ ClosesAt text place stop

section Links

variable {text : Array CodePoint} {start stop nameEnd place : Nat} {point : CodePoint}

theorem not_blank_of_word (word : point.isAsciiWord = true) : point.isAsciiBlank = false := by
  unfold CodePoint.isAsciiWord CodePoint.isAsciiDigit CodePoint.isAsciiUpper
    CodePoint.isAsciiLower at word
  unfold CodePoint.isAsciiBlank
  simp only [Bool.or_eq_true, decide_eq_true_eq, Bool.or_eq_false_iff,
    decide_eq_false_iff_not] at word ⊢
  omega

theorem opening_not_word : opening.isAsciiWord = false := by decide

theorem opening_not_blank : opening.isAsciiBlank = false := by decide

theorem NamedCall.opening_eq (call : NamedCall text start nameEnd place) :
    isWordAt text[start + 1]? = true ∧ callOpening text start = place := by
  have afterName : ∀ point, text[nameEnd]? = some point → point.isAsciiWord = false := by
    intro point here
    rcases Nat.eq_or_lt_of_le call.apart with rfl | before
    · rw [call.opened] at here
      cases here
      exact opening_not_word
    · have blank := call.blank nameEnd (Nat.le_refl _) before
      rw [here] at blank
      by_contra word
      rw [Bool.not_eq_false] at word
      rw [Option.any_some, not_blank_of_word word] at blank
      cases blank
  have afterBlanks : ∀ point, text[place]? = some point → point.isAsciiBlank = false := by
    intro point here
    rw [call.opened] at here
    cases here
    exact opening_not_blank
  refine ⟨call.name (start + 1) (Nat.le_refl _) call.named, ?_⟩
  unfold callOpening
  rw [past_run_eq (Nat.le_of_lt call.named) call.name afterName,
    past_run_eq call.apart call.blank afterBlanks]

theorem named_call_of_opened (dotted : text[start]? = some dot)
    (named : isWordAt text[start + 1]? = true)
    (opened : text[callOpening text start]? = some opening) :
    NamedCall text start (pastRun text CodePoint.isAsciiWord (start + 1))
      (callOpening text start) where
  dotted := dotted
  named := by
    obtain ⟨point, here, word⟩ := (Option.any_eq_true _ _).1 named
    rw [past_run_of_accepted here word]
    exact le_past_run _ _
  name := all_between_past_run _ _
  apart := le_past_run _ _
  blank := all_between_past_run _ _
  opened := opened

theorem link_end_eq_some_iff : linkEnd? text start = some stop ↔ LinkAt text start stop := by
  unfold linkEnd?
  constructor
  · intro found
    split at found
    next begun =>
        obtain ⟨opened, closes⟩ := group_end_eq_some_iff.1 found
        exact ⟨_, _, named_call_of_opened begun.1 begun.2 opened, closes⟩
    next => cases found
  · rintro ⟨nameEnd, place, call, closes⟩
    obtain ⟨named, same⟩ := call.opening_eq
    rw [if_pos ⟨call.dotted, named⟩, same]
    exact group_end_eq_some_iff.2 ⟨call.opened, closes⟩

theorem link_end_onward (found : linkEnd? text start = some stop) :
    start < stop ∧ stop ≤ text.size := by
  obtain ⟨nameEnd, place, call, closes⟩ := link_end_eq_some_iff.1 found
  have later := closes.later
  have inside := closes.inside
  have named := call.named
  have apart := call.apart
  omega

end Links

/-- Where the calls end that are chained from an offset on. The fuel bounds their number. -/
def chainEnd (text : Array CodePoint) : Nat → Nat → Nat
  | 0, offset => offset
  | fuel + 1, offset =>
      match linkEnd? text offset with
      | none => offset
      | some next => chainEnd text fuel next

def pastLinks (text : Array CodePoint) (offset : Nat) : Nat :=
  chainEnd text (text.size - offset) offset

/-- Call after call up to where no further one begins. -/
inductive Chained (text : Array CodePoint) : Nat → Nat → Prop where
  | finished {offset : Nat} (nothing : ∀ next, ¬LinkAt text offset next) : Chained text offset offset
  | more {offset next last : Nat} (link : LinkAt text offset next)
      (rest : Chained text next last) : Chained text offset last

section Chains

variable {text : Array CodePoint} {offset next : Nat}

theorem chain_end_succ {fuel : Nat} (enough : text.size - offset ≤ fuel) :
    chainEnd text (fuel + 1) offset = chainEnd text fuel offset := by
  induction fuel generalizing offset with
  | zero =>
      unfold chainEnd
      cases found : linkEnd? text offset with
      | none => rfl
      | some next =>
          have onward := link_end_onward found
          omega
  | succ fuel ih =>
      rw [chainEnd, chainEnd]
      cases found : linkEnd? text offset with
      | none => rfl
      | some next =>
          have onward := link_end_onward found
          exact ih (by omega)

theorem chain_end_of_enough {fuel : Nat} (enough : text.size - offset ≤ fuel) :
    chainEnd text fuel offset = pastLinks text offset := by
  induction enough with
  | refl => rfl
  | step enough ih => rw [chain_end_succ enough, ih]

theorem past_links_of_none (found : linkEnd? text offset = none) :
    pastLinks text offset = offset := by
  rw [← chain_end_of_enough (Nat.le_succ _), chainEnd, found]

theorem past_links_of_some (found : linkEnd? text offset = some next) :
    pastLinks text offset = pastLinks text next := by
  have onward := link_end_onward found
  rw [← chain_end_of_enough (Nat.le_succ _), chainEnd, found]
  exact chain_end_of_enough (by omega)

theorem chain_induction (text : Array CodePoint) {motive : Nat → Prop}
    (last : ∀ offset, linkEnd? text offset = none → motive offset)
    (more : ∀ offset next, linkEnd? text offset = some next → motive next → motive offset)
    (offset : Nat) : motive offset := by
  induction left : text.size - offset using Nat.strongRecOn generalizing offset with
  | ind left ih =>
      cases found : linkEnd? text offset with
      | none => exact last offset found
      | some next =>
          have onward := link_end_onward found
          exact more offset next found (ih _ (by omega) next rfl)

theorem chained_past_links (offset : Nat) : Chained text offset (pastLinks text offset) := by
  induction offset using chain_induction text with
  | last offset found =>
      rw [past_links_of_none found]
      apply Chained.finished
      intro next link
      rw [link_end_eq_some_iff.2 link] at found
      cases found
  | more offset next found ih =>
      rw [past_links_of_some found]
      exact .more (link_end_eq_some_iff.1 found) ih

theorem chained_iff {last : Nat} : Chained text offset last ↔ last = pastLinks text offset := by
  constructor
  · intro chained
    induction chained with
    | @finished offset nothing =>
        have found : linkEnd? text offset = none := by
          rw [Option.eq_none_iff_forall_ne_some]
          exact fun next found => nothing next (link_end_eq_some_iff.1 found)
        exact (past_links_of_none found).symm
    | more link rest ih => rw [ih, past_links_of_some (link_end_eq_some_iff.2 link)]
  · rintro rfl
    exact chained_past_links offset

end Chains

section Ends

variable {text : Array CodePoint}

theorem ends_call_rest (offset : Nat) :
    ends text (.sequence blanks (.sequence nestedArguments .empty)) offset =
      (groupEnd? text (pastRun text CodePoint.isAsciiBlank offset)).toList := by
  unfold blanks
  rw [ends_run_sequence, ends_sequence_empty, ends_nested_arguments]
  intro offset point here blank
  rw [ends_sequence_empty, ends_nested_arguments, groupEnd?, if_neg]
  · rfl
  · rw [here]
    rintro same
    cases same
    cases blank

theorem ends_link (offset : Nat) : ends text link offset = (linkEnd? text offset).toList := by
  -- Behind a part of the name the name would have to go on with blanks or a parenthesis.
  have restRefuses : ∀ offset point, text[offset]? = some point → point.isAsciiWord = true →
      ends text (.sequence blanks (.sequence nestedArguments .empty)) offset = [] := by
    intro offset point here word
    have notBlank : ∀ other, text[offset]? = some other → other.isAsciiBlank = false := by
      intro other found
      rw [here] at found
      cases found
      exact not_blank_of_word word
    rw [ends_call_rest, past_run_of_refused notBlank, groupEnd?, if_neg]
    · rfl
    · rw [here]
      rintro same
      cases same
      rw [opening_not_word] at word
      cases word
  change ends text (.sequence (literal [dot]) (.sequence
    (.sequence (.one CodePoint.isAsciiWord) (.repeated (.one CodePoint.isAsciiWord)))
      (.sequence blanks (.sequence nestedArguments .empty)))) offset = _
  rw [ends_point_sequence, ends_sequence_assoc, ends_one_sequence,
    ends_run_sequence restRefuses, ends_call_rest]
  unfold linkEnd? callOpening isWordAt
  cases here : text[offset + 1]? with
  | none => simp
  | some point =>
      by_cases word : point.isAsciiWord = true
      · rw [past_run_of_accepted here word]
        by_cases dotted : text[offset]? = some dot
        · simp [dotted, word]
        · simp [dotted]
      · simp [word]

theorem ends_link_sequence (rest : Pattern) (offset : Nat) :
    ends text (.sequence link rest) offset =
      (linkEnd? text offset).toList.flatMap (ends text rest) := by
  rw [ends, ends_link]

/-- A last call that is not complete is given up, and none of those in front of it. -/
theorem ends_links_sequence {rest : Pattern}
    (matched : ∀ offset, ends text rest offset ≠ []) (offset : Nat) :
    (ends text (.sequence (.repeated link) rest) offset).head? =
      (ends text rest (pastLinks text offset)).head? := by
  induction offset using chain_induction text with
  | last offset found =>
      rw [ends_repeated_sequence, ends_link, found, past_links_of_none found]
      rfl
  | more offset next found ih =>
      have further := (link_end_onward found).1
      have some : (ends text rest (pastLinks text next)).head?.isSome = true :=
        List.isSome_head?.2 (matched _)
      -- The end without this call comes later in the list, and the list begins with another one.
      rw [ends_repeated_sequence, ends_link, found, Option.toList_some,
        List.filter_cons_of_pos (by simpa using further), List.filter_nil,
        List.flatMap_singleton, List.head?_append, ih, past_links_of_some found,
        Option.or_of_isSome some]

end Ends

end Statement

end Dimming
