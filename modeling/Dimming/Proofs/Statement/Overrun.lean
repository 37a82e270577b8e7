import Dimming.Proofs.Statement.Arguments

/-!
# Ranges that run over their statement

A call on a collection of logs is taken to go on up to the next semicolon. So its range is the
statement and nothing else if a semicolon ends the statement, or if the text does. Where neither does,
as it is usual at the end of a line, the range takes in whatever follows.
-/

set_option autoImplicit false

namespace Dimming

namespace Statement

open Pattern

variable {text : Array CodePoint} {start offset place closed last stop : Nat}

/-- Calls one behind the other, each with or without blanks in front of it. -/
inductive Strung (text : Array CodePoint) : Nat → Nat → Prop where
  | finished {offset : Nat} : Strung text offset offset
  | more {offset begun next last : Nat} (blank : Blank text offset begun)
      (link : LinkAt text begun next) (rest : Strung text next last) : Strung text offset last

/-- A call on a collection of logs, the calls strung behind it, and a semicolon or none. -/
def OnlyLogs (text : Array CodePoint) (start stop : Nat) : Prop :=
  ∃ place closed last, LogsAt text start place ∧ text[place]? = some opening ∧
    ClosesAt text place closed ∧ Strung text closed last ∧
    (stop = last ∨ text[last]? = some semicolon ∧ stop = last + 1)

section Closing

theorem closing_last {depth count : Nat} {points : List CodePoint}
    (found : closing? depth points = some (count + 1)) : points[count]? = some closing := by
  induction points generalizing depth count with
  | nil => cases found
  | cons point rest ih =>
      have later {depth : Nat} (found : (closing? depth rest).map (· + 1) = some (count + 1)) :
          (point :: rest)[count]? = some closing := by
        rw [map_succ_eq_some_iff] at found
        cases count with
        | zero => exact absurd found (closing_ne_zero _ _)
        | succ count => exact ih found
      unfold closing? at found
      split at found
      next =>
          split at found
          next => exact later found
          next => cases found
      next =>
          split at found
          next isClosing =>
              split at found
              next =>
                  obtain rfl : count = 0 := by simpa using found
                  rw [isClosing]
                  rfl
              next => exact later found
          next => exact later found

theorem closing_before (opened : text[place]? = some opening) (closes : ClosesAt text place closed) :
    0 < closed ∧ text[closed - 1]? = some closing := by
  obtain ⟨count, found, rfl⟩ := Option.map_eq_some_iff.1 (closed_from_opening opened closes)
  cases count with
  | zero => exact absurd found (closing_ne_zero _ _)
  | succ count =>
      have read := closing_last found
      rw [List.getElem?_drop, Array.getElem?_toList] at read
      exact ⟨by omega, read⟩

theorem Strung.upTo (strung : Strung text offset last) : offset ≤ last := by
  induction strung with
  | finished => exact Nat.le_refl _
  | more blank link _ ih =>
      have later := (link_end_onward (link_end_eq_some_iff.2 link)).1
      have upTo := blank.upTo
      omega

theorem Strung.closing_before (strung : Strung text offset last)
    (shut : 0 < offset ∧ text[offset - 1]? = some closing) :
    0 < last ∧ text[last - 1]? = some closing := by
  induction strung with
  | finished => exact shut
  | more blank link _ ih =>
      obtain ⟨nameEnd, place, call, closes⟩ := link
      exact ih (Statement.closing_before call.opened closes)

theorem Strung.eq_of_no_dot (strung : Strung text offset last)
    (other : text[pastRun text CodePoint.isAsciiBlank offset]? ≠ some dot) : last = offset := by
  cases strung with
  | finished => rfl
  | @more _ begun next _ blank link _ =>
      obtain ⟨nameEnd, place, call, -⟩ := link
      have stops : ∀ point, text[begun]? = some point → point.isAsciiBlank = false := by
        intro point here
        rw [call.dotted] at here
        obtain rfl := Option.some.inj here
        decide
      rw [past_run_eq blank.upTo blank.inside stops] at other
      exact absurd call.dotted other

end Closing

section Ranges

theorem logs_call_unique {otherPlace otherClosed : Nat} (head : LogsAt text start place)
    (opened : text[place]? = some opening) (closes : ClosesAt text place closed)
    (otherHead : LogsAt text start otherPlace) (otherOpened : text[otherPlace]? = some opening)
    (otherCloses : ClosesAt text otherPlace otherClosed) :
    otherPlace = place ∧ otherClosed = closed := by
  have first := first_opening_of_flat head.flat (Nat.le_of_lt head.later) opened
  have other := first_opening_of_flat otherHead.flat (Nat.le_of_lt otherHead.later) otherOpened
  obtain rfl := first_mark_unique other first
  exact ⟨rfl, closes_at_unique opened otherCloses closes⟩

/-- A range up to the next semicolon is the statement alone exactly if the calls strung behind the
first one, free of semicolons, are followed by a semicolon or by nothing. -/
theorem only_logs_iff (head : LogsAt text start place) (opened : text[place]? = some opening)
    (closes : ClosesAt text place closed) (past : PastMark text semicolon closed stop) :
    OnlyLogs text start stop ↔
      ∃ last, Strung text closed last ∧
        (∀ between, closed ≤ between → between < last → text[between]? ≠ some semicolon) ∧
        (text[last]? = some semicolon ∨ last = text.size) := by
  constructor
  · rintro ⟨otherPlace, otherClosed, last, otherHead, otherOpened, otherCloses, strung, ended⟩
    obtain ⟨rfl, rfl⟩ :=
      logs_call_unique head opened closes otherHead otherOpened otherCloses
    have upTo := strung.upTo
    rcases ended with rfl | ⟨here, rfl⟩
    · rcases past with ⟨mark, marked, rfl⟩ | ⟨none, rfl⟩
      · -- The semicolon at the end of the range would be the parenthesis of the last call.
        obtain ⟨-, shut⟩ := strung.closing_before (Statement.closing_before opened closes)
        have found : text[mark]? = some closing := shut
        rw [marked.here] at found
        cases found
      · exact ⟨_, strung, fun between after _ => none between after, Or.inr rfl⟩
    · rcases past with ⟨mark, marked, same⟩ | ⟨none, -⟩
      · obtain rfl : mark = last := by omega
        exact ⟨mark, strung, marked.first, Or.inl here⟩
      · exact absurd here (none last upTo)
  · rintro ⟨last, strung, clean, ended⟩
    refine ⟨place, closed, last, head, opened, closes, strung, ?_⟩
    have upTo := strung.upTo
    rcases past with ⟨mark, marked, rfl⟩ | ⟨none, rfl⟩
    · right
      have inside := (Array.getElem?_eq_some_iff.1 marked.here).1
      have notBefore : ¬mark < last := fun before => clean mark marked.later before marked.here
      rcases ended with here | rfl
      · have first : FirstMark text semicolon closed last := ⟨upTo, here, clean⟩
        rw [first_mark_unique first marked]
        exact ⟨marked.here, rfl⟩
      · exact absurd inside notBefore
    · left
      rcases ended with here | rfl
      · exact absurd here (none last upTo)
      · rfl

/-- Every range that is reported for a call on a collection of logs in the language reads a receiver,
its logs, a name and balanced arguments, and goes on from there to the next semicolon, or to the end
of the text if there is none. It is the statement with the calls chained to it, and nothing else,
exactly if these calls have no semicolon in them and are followed by one or by nothing. -/
theorem logs_range_ends_at_semicolon (text : Text) :
    spans text "go" = Span.findAll text goLogger ++ Span.findAll text goLogs ++
        general.flatMap (Span.findAll text) ∧
      ∀ span ∈ Span.findAll text goLogs, ∃ place closed, LogsAt text.toArray span.start place ∧
        text.toArray[place]? = some opening ∧ ClosesAt text.toArray place closed ∧
        PastMark text.toArray semicolon closed span.stop ∧
        (OnlyLogs text.toArray span.start span.stop ↔
          ∃ last, Strung text.toArray closed last ∧
            (∀ between, closed ≤ between → between < last →
              text.toArray[between]? ≠ some semicolon) ∧
            (text.toArray[last]? = some semicolon ∨ last = text.length)) := by
  constructor
  · have searched : (Dialect.ofLanguage "go").searched = goLogger :: goLogs :: general := rfl
    rw [spans_eq, searched, List.flatMap_cons, List.flatMap_cons, List.append_assoc]
  · intro span among
    obtain ⟨place, ⟨head, opened, -⟩, closed, closes, past⟩ :=
      logs_end_iff.1 ((Span.exhausts_find_all text goLogs).matched span among)
    exact ⟨place, closed, head, opened, closes, past, only_logs_iff head opened closes past⟩

/-- A statement that a semicolon ends is reported alone, although another one follows. -/
theorem ended_logs_reported_alone :
    let text : Text := "s.Logs.Info(x)\n  .Send(); run()"
    ⟨0, 25⟩ ∈ Span.findAll text goLogs ∧ OnlyLogs text.toArray 0 25 := by
  intro text
  have found : ⟨0, 25⟩ ∈ Span.findAll text goLogs := by decide +kernel
  obtain ⟨place, closed, head, opened, closes, -, alone⟩ :=
    (logs_range_ends_at_semicolon text).2 _ found
  obtain rfl : place = 11 :=
    first_mark_unique (first_opening_of_flat head.flat (Nat.le_of_lt head.later) opened)
      (first_mark_iff.2 (by decide +kernel))
  obtain rfl : closed = 14 :=
    closes_at_unique opened closes (closes_of_group (by decide +kernel))
  have blanks : pastRun text.toArray CodePoint.isAsciiBlank 14 = 17 := by decide +kernel
  have apart : Blank text.toArray 14 17 := ⟨by decide, blanks ▸ all_between_past_run _ _⟩
  have sent : LinkAt text.toArray 17 24 := link_end_eq_some_iff.1 (by decide +kernel)
  have ended : FirstMark text.toArray semicolon 14 24 := first_mark_iff.2 (by decide +kernel)
  exact ⟨found, alone.2 ⟨24, .more apart sent .finished, ended.first, Or.inl ended.here⟩⟩

/-- Without a semicolon the statement on the next line is in the range as well. -/
theorem next_statement_in_logs_range :
    let text : Text := "s.Logs.Info(x)\nrun()"
    Span.findAll text goLogs = [⟨0, 20⟩] ∧ ¬OnlyLogs text.toArray 0 20 := by
  intro text
  have found : Span.findAll text goLogs = [⟨0, 20⟩] := by decide +kernel
  refine ⟨found, ?_⟩
  rintro ⟨place, closed, last, head, opened, closes, strung, ended⟩
  obtain rfl : place = 11 :=
    first_mark_unique (first_opening_of_flat head.flat (Nat.le_of_lt head.later) opened)
      (first_mark_iff.2 (by decide +kernel))
  obtain rfl : closed = 14 :=
    closes_at_unique opened closes (closes_of_group (by decide +kernel))
  obtain rfl : last = 14 := strung.eq_of_no_dot (by decide +kernel)
  omega

end Ranges

end Statement

end Dimming
