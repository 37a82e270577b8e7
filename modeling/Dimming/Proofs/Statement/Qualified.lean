import Dimming.Proofs.Statement.Extent

/-!
# Output to qualified streams

Output to a qualified stream is found by two shapes, which are looked for apart. The one without the
qualification may have begun with an earlier statement by then, but both end at the same semicolon,
so whoever leaves the qualified ranges out loses nothing behind the names of the streams.
-/

set_option autoImplicit false

namespace Dimming

namespace Span

variable {text : Text} {shape : Pattern} {one two : Span}

/-- Matches that take up a point end apart: the scan goes on behind each of them. -/
theorem eq_of_stop_eq (further : ∀ span ∈ findAll text shape, span.start < span.stop)
    (oneAmong : one ∈ findAll text shape) (twoAmong : two ∈ findAll text shape)
    (together : one.stop = two.stop) : one = two := by
  by_contra different
  have oneFurther := further one oneAmong
  have twoFurther := further two twoAmong
  rcases apart_of_ordered (exhausts_find_all text shape).ordered oneAmong twoAmong different with
    before | before <;> omega

end Span

namespace Statement

open Pattern

variable {text : Array CodePoint} {offset place stop : Nat}

def qualification : Text := "std::"

theorem bare_of_qualified_begins (begins : StreamBegins qualification text offset place) :
    StreamBegins [] text (offset + qualification.length) place := by
  obtain ⟨⟨word, known, stands, blanks⟩, arrows⟩ := begins
  rw [List.length_append, ← Nat.add_assoc] at blanks
  exact ⟨⟨word, known, (prefix_append_iff.1 stands).2, blanks⟩, arrows⟩

theorem stream_of_qualified (matched : endAt? text qualifiedStream offset = some stop) :
    endAt? text stream (offset + qualification.length) = some stop := by
  obtain ⟨place, begins, past⟩ := qualified_stream_end_iff.1 matched
  exact bare_stream_end_iff.2 ⟨place, bare_of_qualified_begins begins, past⟩

theorem past_semicolon_of_stream (matched : endAt? text stream offset = some stop) :
    PastMark text semicolon offset stop := by
  obtain ⟨place, begins, past⟩ := bare_stream_end_iff.1 matched
  exact stream_past_semicolon (by decide) begins past

theorem stream_inside (matched : endAt? text stream offset = some stop) : offset ≤ text.size := by
  obtain ⟨place, ⟨⟨word, -, -, blanks⟩, arrows⟩, -⟩ := bare_stream_end_iff.1 matched
  have upTo := blanks.upTo
  have inside := arrows_inside arrows
  omega

section Reported

variable {text : Text}

/-- Wherever output to a stream begins, a range of that shape goes on to its end and no further: it
is found itself, or the range that it begins in has no semicolon in front of it. -/
theorem stream_covered (matched : endAt? text.toArray stream offset = some stop) :
    ∃ span ∈ Span.findAll text stream, span.start ≤ offset ∧ span.stop = stop := by
  have scanned := Span.exhausts_find_all text stream
  have found : (endAt? text.toArray stream offset).isSome = true := by rw [matched, Option.isSome_some]
  obtain ⟨span, among, placed⟩ := scanned.covered offset (Nat.zero_le _) (stream_inside matched) found
  have outer := scanned.matched span among
  rcases placed with rfl | ⟨after, before⟩
  · rw [matched, Option.some.injEq] at outer
    exact ⟨span, among, Nat.le_refl _, outer.symm⟩
  · have ended := past_mark_unique (past_semicolon_of_stream outer) (Nat.le_of_lt after) before
      (past_semicolon_of_stream matched)
    exact ⟨span, among, Nat.le_of_lt after, ended.symm⟩

/-- A range without a qualification that ends where a qualified one does and covers it from the
name of the stream on. -/
structure Companion (text : Text) (span other : Span) : Prop where
  found : other ∈ Span.findAll text stream
  early : other.start ≤ span.start + qualification.length
  together : other.stop = span.stop

/-- Every range of output to a qualified stream has exactly one companion among the ranges of the
other shape, and no two of them share one. What is left without the qualified ranges covers every
output to a stream from the name of the stream to its end. -/
theorem qualified_ranges_accompanied (text : Text) :
    spans text "cpp" =
      Span.findAll text qualifiedStream ++
        (Span.findAll text stream ++ general.flatMap (Span.findAll text)) ∧
    (∀ span ∈ Span.findAll text qualifiedStream, ∃! other, Companion text span other) ∧
    (∀ one ∈ Span.findAll text qualifiedStream, ∀ two ∈ Span.findAll text qualifiedStream,
      ∀ other, Companion text one other → Companion text two other → one = two) ∧
    ∀ offset stop, endAt? text.toArray stream offset = some stop →
      ∃ span ∈ Span.findAll text stream, span.start ≤ offset ∧ span.stop = stop := by
  have further (shape : Pattern) (solid : shape.isSolid = true) :
      ∀ span ∈ Span.findAll text shape, span.start < span.stop := find_all_further solid
  refine ⟨?_, ?_, ?_, fun offset stop => stream_covered⟩
  · rw [spans_eq]
    rfl
  · intro span among
    have matched := (Span.exhausts_find_all text qualifiedStream).matched span among
    obtain ⟨other, found, early, together⟩ := stream_covered (stream_of_qualified matched)
    refine ⟨other, ⟨found, early, together⟩, fun another also => ?_⟩
    exact Span.eq_of_stop_eq (further stream rfl) also.found found
      (also.together.trans together.symm)
  · intro one oneAmong two twoAmong other first second
    exact Span.eq_of_stop_eq (further qualifiedStream rfl) oneAmong twoAmong
      (first.together.symm.trans second.together)

/-- An earlier output that has no semicolon of its own is the companion of the first qualified one. -/
theorem swallowed_output_accompanied :
    let text : Text := "cerr << a\nstd::cout << b; std::clog << c;"
    Span.findAll text qualifiedStream = [⟨10, 25⟩, ⟨26, 41⟩] ∧
      Companion text ⟨10, 25⟩ ⟨0, 25⟩ ∧ Companion text ⟨26, 41⟩ ⟨31, 41⟩ := by
  intro text
  have found : Span.findAll text qualifiedStream = [⟨10, 25⟩, ⟨26, 41⟩] := by decide +kernel
  have bare : Span.findAll text stream = [⟨0, 25⟩, ⟨31, 41⟩] := by decide +kernel
  have accompanied := (qualified_ranges_accompanied text).2.1
  rw [found] at accompanied
  obtain ⟨first, one, -⟩ := accompanied ⟨10, 25⟩ List.mem_cons_self
  obtain ⟨second, two, -⟩ := accompanied ⟨26, 41⟩ (List.mem_cons_of_mem _ List.mem_cons_self)
  have firstAmong := one.found
  have secondAmong := two.found
  rw [bare, List.mem_pair] at firstAmong secondAmong
  refine ⟨found, ?_, ?_⟩
  · rcases firstAmong with rfl | rfl
    · exact one
    · cases one.together
  · rcases secondAmong with rfl | rfl
    · cases two.together
    · exact two

end Reported

end Statement

end Dimming
