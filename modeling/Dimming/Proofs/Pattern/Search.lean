import Dimming.Proofs.Pattern.Ends
import Dimming.Span
import Mathlib.Data.List.Pairwise

/-!
# Search for every match

Matches are looked for from left to right, and behind each of them the search goes on. Whatever
engine does the looking, it comes to an end, leaves no match out except inside one that it has
found, and finds none twice. Matches of nothing are no exception: the cursor always moves on.
-/

set_option autoImplicit false

namespace Dimming

namespace Span

/-- The first match of a text that begins at a cursor or later. -/
structure FirstFrom (endAt? : Nat → Option Nat) (length cursor : Nat) (span : Span) : Prop where
  later : cursor ≤ span.start
  inside : span.start ≤ length
  matched : endAt? span.start = some span.stop
  first : ∀ offset, cursor ≤ offset → offset < span.start → endAt? offset = none

/-- What is asked of an engine for a pattern on a text of a given length: it says where a match
that begins at an offset ends, and finds the first match from a cursor on. What stands in front
of the cursor may have a say in both. -/
structure Engine (length : Nat) where
  endAt? : Nat → Option Nat
  search : Nat → Option Span
  onward : ∀ offset stop, offset ≤ length → endAt? offset = some stop →
    offset ≤ stop ∧ stop ≤ length
  found : ∀ cursor span, cursor ≤ length → search cursor = some span →
    FirstFrom endAt? length cursor span
  missed : ∀ cursor, cursor ≤ length → search cursor = none →
    ∀ offset, cursor ≤ offset → offset ≤ length → endAt? offset = none

/-- The search from a cursor on, round by round and without a bound on their number. -/
inductive Rounds (search : Nat → Option Span) (length : Nat) : Nat → List Span → Prop where
  | past {cursor : Nat} (behind : length < cursor) : Rounds search length cursor []
  | missed {cursor : Nat} (inside : cursor ≤ length) (nothing : search cursor = none) :
      Rounds search length cursor []
  | found {cursor : Nat} {span : Span} {later : List Span} (inside : cursor ≤ length)
      (found : search cursor = some span) (rest : Rounds search length span.nextCursor later) :
      Rounds search length cursor (span :: later)

/-- Matches from a cursor on, in order, that leave none out but what begins inside of one. -/
structure Exhausts (endAt? : Nat → Option Nat) (length cursor : Nat) (spans : List Span) :
    Prop where
  later : ∀ span ∈ spans, cursor ≤ span.start
  bounded : ∀ span ∈ spans, span.start ≤ span.stop ∧ span.stop ≤ length
  matched : ∀ span ∈ spans, endAt? span.start = some span.stop
  ordered : spans.Pairwise fun earlier later =>
    earlier.start < later.start ∧ earlier.stop ≤ later.start
  covered : ∀ offset, cursor ≤ offset → offset ≤ length → (endAt? offset).isSome = true →
    ∃ span ∈ spans, offset = span.start ∨ span.start < offset ∧ offset < span.stop

theorem stop_le_next_cursor (span : Span) : span.stop ≤ span.nextCursor := by
  unfold nextCursor
  split <;> omega

section Engines

variable {length cursor : Nat} (engine : Engine length)

theorem next_cursor_past {span : Span} (inside : cursor ≤ length)
    (found : engine.search cursor = some span) :
    cursor < span.nextCursor ∧ span.start < span.nextCursor := by
  have first := engine.found cursor span inside found
  have later := first.later
  have onward := engine.onward _ _ first.inside first.matched
  unfold nextCursor
  split <;> omega

theorem rounds_scan_from {fuel : Nat} (enough : length + 1 - cursor ≤ fuel) :
    Rounds engine.search length cursor (scanFrom engine.search length fuel cursor) := by
  induction fuel generalizing cursor with
  | zero =>
      apply Rounds.past
      omega
  | succ fuel ih =>
      unfold scanFrom
      by_cases inside : cursor ≤ length
      · rw [if_pos inside]
        cases found : engine.search cursor with
        | none => exact .missed inside found
        | some span =>
            have past := next_cursor_past engine inside found
            apply Rounds.found inside found
            apply ih
            omega
      · rw [if_neg inside]
        apply Rounds.past
        omega

theorem rounds_unique {search : Nat → Option Span} {spans others : List Span}
    (rounds : Rounds search length cursor spans) (again : Rounds search length cursor others) :
    spans = others := by
  induction rounds generalizing others with
  | past behind =>
      cases again with
      | past => rfl
      | missed => rfl
      | found inside => omega
  | missed inside nothing =>
      cases again with
      | past => rfl
      | missed => rfl
      | found _ found => simp [nothing] at found
  | found inside found rest ih =>
      cases again with
      | past behind => omega
      | missed _ nothing => simp [nothing] at found
      | found _ again others =>
          obtain rfl := Option.some.inj (found.symm.trans again)
          rw [ih others]

theorem rounds_iff {spans : List Span} :
    Rounds engine.search length 0 spans ↔ spans = scan engine.search length := by
  have ends : Rounds engine.search length 0 (scan engine.search length) :=
    rounds_scan_from engine (Nat.le_refl _)
  constructor
  · intro rounds
    exact rounds_unique rounds ends
  · rintro rfl
    exact ends

theorem exhausts_cons {span : Span} {spans : List Span}
    (first : FirstFrom engine.endAt? length cursor span)
    (rest : Exhausts engine.endAt? length span.nextCursor spans) :
    Exhausts engine.endAt? length cursor (span :: spans) where
  later := by
    intro other among
    rcases List.mem_cons.1 among with rfl | among
    · exact first.later
    · have onward := engine.onward _ _ first.inside first.matched
      have behind := stop_le_next_cursor span
      have later := rest.later other among
      have start := first.later
      omega
  bounded := by
    intro other among
    rcases List.mem_cons.1 among with rfl | among
    · exact engine.onward _ _ first.inside first.matched
    · exact rest.bounded other among
  matched := by
    intro other among
    rcases List.mem_cons.1 among with rfl | among
    · exact first.matched
    · exact rest.matched other among
  ordered := by
    apply List.Pairwise.cons _ rest.ordered
    intro other among
    have later := rest.later other among
    have onward := engine.onward _ _ first.inside first.matched
    unfold nextCursor at later
    split at later <;> omega
  covered := by
    intro offset after inside matched
    rcases Nat.lt_trichotomy offset span.start with before | rfl | behind
    · rw [first.first offset after before] at matched
      cases matched
    · exact ⟨span, List.mem_cons_self, Or.inl rfl⟩
    · by_cases next : span.nextCursor ≤ offset
      · obtain ⟨other, among, placed⟩ := rest.covered offset next inside matched
        exact ⟨other, List.mem_cons_of_mem _ among, placed⟩
      · refine ⟨span, List.mem_cons_self, Or.inr ⟨behind, ?_⟩⟩
        unfold nextCursor at next
        split at next <;> omega

theorem exhausts_of_rounds {spans : List Span}
    (rounds : Rounds engine.search length cursor spans) :
    Exhausts engine.endAt? length cursor spans := by
  have nothing (cursor : Nat)
      (none : ∀ offset, cursor ≤ offset → offset ≤ length → engine.endAt? offset = none) :
      Exhausts engine.endAt? length cursor [] := by
    refine ⟨by simp, by simp, by simp, List.Pairwise.nil, fun offset after inside matched => ?_⟩
    rw [none offset after inside] at matched
    cases matched
  induction rounds with
  | past behind =>
      apply nothing
      intro offset after inside
      omega
  | missed inside none => exact nothing _ (engine.missed _ inside none)
  | found inside found _ ih => exact exhausts_cons engine (engine.found _ _ inside found) ih

theorem exhausts_scan : Exhausts engine.endAt? length 0 (scan engine.search length) :=
  exhausts_of_rounds engine ((rounds_iff engine).2 rfl)

theorem apart_of_ordered {spans : List Span}
    (ordered : spans.Pairwise fun earlier later =>
      earlier.start < later.start ∧ earlier.stop ≤ later.start)
    {one two : Span} (oneAmong : one ∈ spans) (twoAmong : two ∈ spans) (different : one ≠ two) :
    one.stop ≤ two.start ∨ two.stop ≤ one.start := by
  have symmetric : Std.Symm fun one two : Span =>
      one.stop ≤ two.start ∨ two.stop ≤ one.start := ⟨fun _ _ => Or.symm⟩
  have apart := ordered.imp (S := fun one two : Span =>
    one.stop ≤ two.start ∨ two.stop ≤ one.start) fun before => Or.inl before.2
  exact apart.forall oneAmong twoAmong different

theorem empty_match_found {span : Span} (among : span ∈ scan engine.search length)
    (empty : engine.endAt? span.stop = some span.stop) :
    ⟨span.stop, span.stop⟩ ∈ scan engine.search length := by
  have scanned := exhausts_scan engine
  have bounds := scanned.bounded span among
  have matched : (engine.endAt? span.stop).isSome = true := by simp [empty]
  obtain ⟨⟨start, stop⟩, found, placed⟩ :=
    scanned.covered span.stop (Nat.zero_le _) bounds.2 matched
  have same : span.stop = start := by
    rcases placed with same | placed
    · exact same
    · -- Only this match itself could go on past its own end.
      by_cases itself : span = ⟨start, stop⟩
      · subst itself
        exact absurd placed.2 (Nat.lt_irrefl _)
      · have apart := apart_of_ordered scanned.ordered among found itself
        simp only at apart placed
        omega
  have ended := scanned.matched _ found
  subst same
  rw [empty] at ended
  obtain rfl := Option.some.inj ended
  exact found

end Engines

section Patterns

variable {text : Array CodePoint} {pattern : Pattern}

theorem first_of_search_within {fuel cursor : Nat} {span : Span}
    (room : cursor + fuel ≤ text.size + 1)
    (found : searchWithin text pattern fuel cursor = some span) :
    FirstFrom (pattern.endAt? text) text.size cursor span := by
  induction fuel generalizing cursor with
  | zero => cases found
  | succ fuel ih =>
      unfold searchWithin at found
      cases here : pattern.endAt? text cursor with
      | some stop =>
          simp only [here, Option.some.injEq] at found
          subst found
          have inside : cursor ≤ text.size := by omega
          exact ⟨Nat.le_refl _, inside, here,
            fun offset after before => absurd after (Nat.not_le_of_lt before)⟩
      | none =>
          simp only [here] at found
          have first := ih (by omega) found
          refine ⟨Nat.le_of_succ_le first.later, first.inside, first.matched, ?_⟩
          intro offset after before
          rcases Nat.eq_or_lt_of_le after with rfl | after
          · exact here
          · exact first.first offset after before

theorem none_of_search_within {fuel cursor : Nat}
    (nothing : searchWithin text pattern fuel cursor = none) :
    ∀ offset, cursor ≤ offset → offset < cursor + fuel → pattern.endAt? text offset = none := by
  induction fuel generalizing cursor with
  | zero => omega
  | succ fuel ih =>
      unfold searchWithin at nothing
      intro offset after before
      cases here : pattern.endAt? text cursor with
      | some stop => simp [here] at nothing
      | none =>
          simp only [here] at nothing
          rcases Nat.eq_or_lt_of_le after with rfl | after
          · exact here
          · exact ih nothing offset after (by omega)

theorem end_at_onward {offset stop : Nat} (inside : offset ≤ text.size)
    (matched : pattern.endAt? text offset = some stop) : offset ≤ stop ∧ stop ≤ text.size := by
  rw [Pattern.endAt?_eq_head?] at matched
  have onward := Pattern.ends_onward pattern offset stop (List.mem_of_head? matched)
  unfold Pattern.Onward at onward
  omega

end Patterns

/-- The engine that tries a pattern at one offset after the other. -/
def Engine.ofPattern (text : Array CodePoint) (pattern : Pattern) : Engine text.size where
  endAt? := pattern.endAt? text
  search := search? text pattern
  onward _ _ := end_at_onward
  found cursor span inside found := first_of_search_within (by omega) found
  missed cursor inside nothing offset after upTo :=
    none_of_search_within nothing offset after (by omega)

theorem exhausts_find_all (text : Text) (pattern : Pattern) :
    Exhausts (pattern.endAt? text.toArray) text.length 0 (findAll text pattern) :=
  exhausts_scan (Engine.ofPattern text.toArray pattern)

/-- Whatever engine looks for matches, the search from the beginning of the text comes to an end
in one way only, and what it has found by then are matches inside the text, in order and without
an overlap. Every match there is begins at one of these or inside of one, and a match of nothing
right behind another one is among them. Patterns are looked for in this way. -/
theorem every_match_found :
    (∀ {length : Nat} (engine : Engine length),
      (∀ spans, Rounds engine.search length 0 spans ↔ spans = scan engine.search length) ∧
      Exhausts engine.endAt? length 0 (scan engine.search length) ∧
      ∀ span ∈ scan engine.search length, engine.endAt? span.stop = some span.stop →
        ⟨span.stop, span.stop⟩ ∈ scan engine.search length) ∧
    ∀ (text : Text) (pattern : Pattern), ∃ engine : Engine text.length,
      engine.endAt? = pattern.endAt? text.toArray ∧
      findAll text pattern = scan engine.search text.length := by
  constructor
  · intro length engine
    refine ⟨fun spans => rounds_iff engine, exhausts_scan engine, fun span among empty => ?_⟩
    exact empty_match_found engine among empty
  · intro text pattern
    exact ⟨Engine.ofPattern text.toArray pattern, rfl, rfl⟩

/-- Behind a run of one point the run of none is found as well. -/
theorem empty_run_found_behind_run :
    ⟨2, 2⟩ ∈ findAll "axb" (.repeated (.one fun point => point = 'x')) := by
  obtain ⟨engine, same, scanned⟩ :=
    every_match_found.2 "axb" (.repeated (.one fun point => point = 'x'))
  have kept := (every_match_found.1 engine).2.2
  rw [← scanned, same] at kept
  exact kept ⟨1, 2⟩ (by decide +kernel) (by decide +kernel)

end Span

end Dimming
