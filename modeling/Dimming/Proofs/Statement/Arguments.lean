import Dimming.Proofs.Statement.Cover

/-!
# Arguments of calls

Every call has its arguments behind the first opening parenthesis of its match. Where the shape says
that they nest, the match goes on at least to where they are closed. Plain arguments are taken to be
closed by the first parenthesis that closes anything: that is where they are closed if no parenthesis
is opened inside of them, and it is too early if one is.
-/

set_option autoImplicit false

namespace Dimming

namespace Statement

open Pattern

variable {text : Array CodePoint} {start offset place closed stop : Nat}

section Heads

theorem first_opening_of_flat
    (flat : AllBetween text (fun point => !isParenthesis point) offset place)
    (upTo : offset ≤ place) (opened : text[place]? = some opening) :
    FirstMark text opening offset place :=
  ⟨upTo, opened, not_mark_of_all_between flat rfl⟩

theorem WordAt.later {lead : Text} {words : List Text} (head : WordAt lead words text offset place) :
    offset + lead.length ≤ place := by
  obtain ⟨word, -, -, blanks⟩ := head
  have upTo := blanks.upTo
  rw [List.length_append] at upTo
  omega

theorem NameAt.later {lead : Text} (head : NameAt lead text offset place) :
    offset + lead.length < place := by
  obtain ⟨-, nameEnd, name, blanks⟩ := head
  exact Nat.lt_of_lt_of_le name.upTo blanks.upTo

theorem LogsAt.later (head : LogsAt text offset place) : offset < place := by
  obtain ⟨receiverEnd, receiver, -, name⟩ := head
  have before := receiver.upTo
  have behind := name.upTo
  omega

theorem LogsAt.flat (head : LogsAt text offset place) :
    AllBetween text (fun point => !isParenthesis point) offset place := by
  obtain ⟨receiverEnd, receiver, logs, name⟩ := head
  have lead : AllBetween text (fun point => !isParenthesis point) receiverEnd
      (receiverEnd + (Text.ofString ".Logs.").length) := all_between_of_stands logs (by decide)
  exact all_between_append (all_between_imp receiver.inside flat_of_word)
    (all_between_append lead (all_between_imp name.inside flat_of_word))

theorem Begins.flat {receiver : Text} (known : receiver ∈ receivers)
    (begins : Begins receiver text offset place) :
    AllBetween text (fun point => !isParenthesis point) offset place := by
  obtain ⟨nameEnd, call⟩ := begins.call
  have named := all_between_of_stands begins.reads (receiver_words known).2
  exact all_between_append (all_between_imp named flat_of_word) call.flat

theorem console_opening (begins : ConsoleBegins text offset place) :
    FirstMark text opening offset place := by
  obtain ⟨head, opened, -⟩ := begins
  have later := head.later
  exact first_opening_of_flat (word_at_between head (by decide) flat_of_blank) (by omega) opened

theorem logger_opening (begins : LoggerBegins text offset place) :
    FirstMark text opening offset place := by
  obtain ⟨head, opened, -⟩ := begins
  have later := head.later
  exact first_opening_of_flat (name_at_between head (by decide) flat_of_word flat_of_blank)
    (by omega) opened

theorem logs_opening (begins : LogsBegins text offset place) :
    FirstMark text opening offset place :=
  first_opening_of_flat begins.1.flat (Nat.le_of_lt begins.1.later) begins.2.1

theorem receiver_opening {receiver : Text} (known : receiver ∈ receivers)
    (begins : Begins receiver text offset place) : FirstMark text opening offset place := by
  obtain ⟨nameEnd, call⟩ := begins.call
  have later := call.upTo
  exact first_opening_of_flat (begins.flat known) (by omega) call.opened

end Heads

section Closing

theorem closes_at_unique {other : Nat} (opened : text[place]? = some opening)
    (closes : ClosesAt text place closed) (also : ClosesAt text place other) : closed = other := by
  have found := group_end_eq_some_iff.2 ⟨opened, closes⟩
  rw [group_end_eq_some_iff.2 ⟨opened, also⟩] at found
  exact (Option.some.inj found).symm

theorem closed_from_opening (opened : text[place]? = some opening)
    (closes : ClosesAt text place closed) : closedFrom? text 1 (place + 1) = some closed := by
  have found := group_end_eq_some_iff.2 ⟨opened, closes⟩
  rwa [groupEnd?, if_pos opened] at found

theorem flat_to_next (text : Array CodePoint) (offset : Nat) :
    AllBetween text (fun point => !isParenthesis point) offset (nextParenthesis text offset) :=
  all_between_imp (all_between_past_run _ offset) fun point accepted => by
    rwa [excluded_eq] at accepted

/-- The first parenthesis that closes anything closes the arguments, if none is opened inside of them;
or it closes an inner group, and the arguments are still open behind it. -/
theorem closed_first_or_inside (opened : text[place]? = some opening)
    (closes : ClosesAt text place closed) {close : Nat}
    (marked : FirstMark text closing (place + 1) close) :
    (closed = close + 1 ∧ ∀ inner, place < inner → inner < closed → text[inner]? ≠ some opening) ∨
      closedFrom? text 1 (close + 1) = some closed ∧
        ∃ inner, place < inner ∧ inner < closed ∧ text[inner]? = some opening := by
  have found := closed_from_opening opened closes
  have flat := flat_to_next text (place + 1)
  have further : place + 1 ≤ nextParenthesis text (place + 1) := le_past_run _ _
  have spec := @next_parenthesis_spec text (place + 1)
  rw [← closed_from_next] at found
  generalize nextParenthesis text (place + 1) = next at found flat further spec
  cases here : text[next]? with
  | none =>
      rw [closed_from_end here] at found
      cases found
  | some point =>
      have parenthesis := spec point here
      unfold isParenthesis at parenthesis
      simp only [Bool.or_eq_true, decide_eq_true_eq] at parenthesis
      rcases parenthesis with rfl | rfl
      · -- Another group is opened, and the next parenthesis behind it has to close that one.
        right
        rw [closed_from_open here (by decide)] at found
        have inside : InGroup text (next + 1) closed := Or.inr found
        rw [closed_from_two] at found
        split at found
        next shut =>
            have clean : ∀ between, next + 1 ≤ between →
                between < nextParenthesis text (next + 1) → text[between]? ≠ some closing :=
              not_mark_of_all_between (flat_to_next text (next + 1)) rfl
            have later : next + 1 ≤ nextParenthesis text (next + 1) := le_past_run _ _
            have first : FirstMark text closing (place + 1) (nextParenthesis text (next + 1)) := by
              refine first_mark_before ?_ (by omega) ⟨later, shut, clean⟩
              intro between after before
              rcases Nat.eq_or_lt_of_le (Nat.le_of_lt_succ before) with rfl | before
              · rw [here]
                decide
              · exact not_mark_of_all_between flat rfl between after before
            rw [first_mark_unique marked first]
            exact ⟨found, next, further, Nat.lt_of_succ_lt inside.later, here⟩
        next => cases found
      · left
        have first : FirstMark text closing (place + 1) next :=
          ⟨further, here, not_mark_of_all_between flat rfl⟩
        rw [closed_from_close_last here, Option.some.injEq] at found
        refine ⟨by rw [first_mark_unique marked first, found], fun inner after before => ?_⟩
        rcases Nat.eq_or_lt_of_le (show inner ≤ next by omega) with rfl | before
        · rw [here]
          decide
        · exact not_mark_of_all_between flat rfl inner after before

/-- A match that ends at the first parenthesis that closes anything, or at a semicolon right behind it,
covers the arguments exactly if no parenthesis is opened inside of them. -/
theorem covered_iff_unnested (opened : text[place]? = some opening)
    (closes : ClosesAt text place closed) {close : Nat}
    (marked : FirstMark text closing (place + 1) close) (atLeast : close + 1 ≤ stop)
    (atMost : stop ≤ pastSemicolon text (close + 1)) :
    closed ≤ stop ↔ ∀ inner, place < inner → inner < closed → text[inner]? ≠ some opening := by
  rcases closed_first_or_inside opened closes marked with
    ⟨rfl, unnested⟩ | ⟨found, inner, after, before, nested⟩
  · exact iff_of_true atLeast unnested
  · refine iff_of_false ?_ fun unnested => unnested inner after before nested
    have inside : InGroup text (close + 1) closed := Or.inl found
    have later := inside.later
    unfold pastSemicolon at atMost
    split at atMost
    next here =>
        -- The semicolon closes nothing, so the way goes on behind it.
        rw [closed_from_other here rfl] at found
        have behind : InGroup text (close + 1 + 1) closed := Or.inl found
        have upTo := behind.later
        omega
    next => omega

end Closing

section Reported

/-- The shapes whose arguments nest, and those whose arguments are plain. -/
def nestedCalls : List Pattern := goLogs :: general

def plainCalls : List Pattern := [console, goLogger]

theorem past_mark_le {mark : CodePoint} (past : PastMark text mark start stop)
    (inside : start ≤ text.size) : start ≤ stop := by
  rcases past with ⟨place, marked, rfl⟩ | ⟨-, rfl⟩
  · exact Nat.le_succ_of_le marked.later
  · exact inside

theorem nested_call_covered {shape : Pattern} (known : shape ∈ nestedCalls)
    (matched : endAt? text shape offset = some stop) :
    ∃ place, FirstMark text opening offset place ∧ place < stop ∧
      ∀ closed, ClosesAt text place closed → closed ≤ stop := by
  have covered {place closed : Nat} (first : FirstMark text opening offset place)
      (closes : ClosesAt text place closed) (upTo : closed ≤ stop) :
      ∃ place, FirstMark text opening offset place ∧ place < stop ∧
        ∀ closed, ClosesAt text place closed → closed ≤ stop := by
    refine ⟨place, first, Nat.lt_of_lt_of_le closes.later upTo, fun other also => ?_⟩
    rw [closes_at_unique first.here also closes]
    exact upTo
  rw [nestedCalls, general_eq] at known
  rcases List.mem_cons.1 known with rfl | general
  · obtain ⟨place, begins, closed, closes, past⟩ := logs_end_iff.1 matched
    exact covered (logs_opening begins) closes (past_mark_le past closes.inside)
  · obtain ⟨receiver, among, rfl⟩ := List.mem_map.1 general
    rw [chain_end_at among] at matched
    obtain ⟨place, closed, last, begins, closes, chained, rfl⟩ := statement_end_eq_some_iff.1 matched
    refine covered (receiver_opening among begins) closes ?_
    rw [chained_iff.1 chained]
    exact Nat.le_trans (le_past_links text closed) (le_past_semicolon text _).1

theorem plain_call_covered {shape : Pattern} (known : shape ∈ plainCalls)
    (matched : endAt? text shape offset = some stop) :
    ∃ place, FirstMark text opening offset place ∧ place < stop ∧
      ∀ closed, ClosesAt text place closed →
        (closed ≤ stop ↔
          ∀ inner, place < inner → inner < closed → text[inner]? ≠ some opening) := by
  have covered {place close : Nat} (first : FirstMark text opening offset place)
      (marked : FirstMark text closing (place + 1) close) (atLeast : close + 1 ≤ stop)
      (atMost : stop ≤ pastSemicolon text (close + 1)) :
      ∃ place, FirstMark text opening offset place ∧ place < stop ∧
        ∀ closed, ClosesAt text place closed →
          (closed ≤ stop ↔
            ∀ inner, place < inner → inner < closed → text[inner]? ≠ some opening) := by
    have later := marked.later
    exact ⟨place, first, by omega, fun closed closes =>
      covered_iff_unnested first.here closes marked atLeast atMost⟩
  unfold plainCalls at known
  rcases List.mem_pair.1 known with rfl | rfl
  · obtain ⟨place, begins, close, marked, rfl⟩ := console_end_iff.1 matched
    exact covered (console_opening begins) marked (le_past_semicolon text _).1 (Nat.le_refl _)
  · obtain ⟨place, begins, close, marked, rfl⟩ := logger_end_iff.1 matched
    exact covered (logger_opening begins) marked (Nat.le_refl _) (le_past_semicolon text _).1

/-- The arguments of every reported call begin with the first opening parenthesis of its range. If
the balance of parentheses returns to nought from there on without being above two on the way, the
range goes on at least to where it first does, provided that the shape of the call lets arguments
nest. Otherwise it does so exactly if no parenthesis is opened inside of the arguments. -/
theorem arguments_covered_unless_cut (text : Text) :
    (∀ shape ∈ nestedCalls, ∀ span ∈ Span.findAll text shape,
      ∃ place, FirstMark text.toArray opening span.start place ∧ place < span.stop ∧
        ∀ closed, ClosesAt text.toArray place closed → closed ≤ span.stop) ∧
    ∀ shape ∈ plainCalls, ∀ span ∈ Span.findAll text shape,
      ∃ place, FirstMark text.toArray opening span.start place ∧ place < span.stop ∧
        ∀ closed, ClosesAt text.toArray place closed →
          (closed ≤ span.stop ↔
            ∀ inner, place < inner → inner < closed → text.toArray[inner]? ≠ some opening) := by
  constructor
  · intro shape known span among
    exact nested_call_covered known ((Span.exhausts_find_all text shape).matched span among)
  · intro shape known span among
    exact plain_call_covered known ((Span.exhausts_find_all text shape).matched span among)

theorem closes_of_group {close : Nat} (found : groupEnd? text place = some close) :
    ClosesAt text place close := (group_end_eq_some_iff.1 found).2

/-- The nested group is inside of the range of the first call, and no group is nested in the second
one. -/
theorem nested_and_flat_arguments_covered :
    let nested : Text := "s.Logs.Info(f(x), y);"
    let flat : Text := "logger.Info(x, y); f(z)"
    ⟨0, 21⟩ ∈ Span.findAll nested goLogs ∧ ClosesAt nested.toArray 11 20 ∧ 20 ≤ 21 ∧
      ⟨0, 17⟩ ∈ Span.findAll flat goLogger ∧ ClosesAt flat.toArray 11 17 ∧
      ∀ inner, 11 < inner → inner < 17 → flat.toArray[inner]? ≠ some opening := by
  intro nested flat
  have nestedFound : ⟨0, 21⟩ ∈ Span.findAll nested goLogs := by decide +kernel
  have nestedCloses : ClosesAt nested.toArray 11 20 := closes_of_group (by decide +kernel)
  have flatFound : ⟨0, 17⟩ ∈ Span.findAll flat goLogger := by decide +kernel
  have flatCloses : ClosesAt flat.toArray 11 17 := closes_of_group (by decide +kernel)
  have nestedOpening : FirstMark nested.toArray opening 0 11 :=
    first_mark_iff.2 (by decide +kernel)
  have flatOpening : FirstMark flat.toArray opening 0 11 := first_mark_iff.2 (by decide +kernel)
  obtain ⟨place, first, -, covered⟩ :=
    (arguments_covered_unless_cut nested).1 goLogs List.mem_cons_self _ nestedFound
  obtain ⟨other, alsoFirst, -, coveredIff⟩ :=
    (arguments_covered_unless_cut flat).2 goLogger (by simp [plainCalls]) _ flatFound
  rw [first_mark_unique first nestedOpening] at covered
  rw [first_mark_unique alsoFirst flatOpening] at coveredIff
  exact ⟨nestedFound, nestedCloses, covered 20 nestedCloses, flatFound, flatCloses,
    (coveredIff 17 flatCloses).1 (Nat.le_refl 17)⟩

/-- The group in the arguments of a console call, or of a logger, cuts the range short. -/
theorem plain_arguments_cut_by_group :
    let text : Text := "console.log(f(x), y);"
    let other : Text := "logger.Info(f(x), y)"
    Span.findAll text console = [⟨0, 16⟩] ∧ FirstMark text.toArray opening 0 11 ∧
      ClosesAt text.toArray 11 20 ∧
      Span.findAll other goLogger = [⟨0, 16⟩] ∧ FirstMark other.toArray opening 0 11 ∧
      ClosesAt other.toArray 11 20 := by
  intro text other
  refine ⟨by decide +kernel, first_mark_iff.2 (by decide +kernel), closes_of_group ?_,
    by decide +kernel, first_mark_iff.2 (by decide +kernel), closes_of_group ?_⟩ <;>
    decide +kernel

end Reported

end Statement

end Dimming
