import Dimming.Proofs.Pattern.Words
import Dimming.Proofs.Statement.Scan

/-!
# Shapes of single languages

What the shapes of a language match, said without patterns: what the text has to read at an
offset, and where the statement ends that begins there. Plain arguments end at the first closing
parenthesis, nested ones where the balance returns to nought, and output to a stream at the first
semicolon. The engine tries other ends as well, but it prefers this one.
-/

set_option autoImplicit false

namespace Dimming

namespace Statement

open Pattern

variable {text : Array CodePoint} {offset stop : Nat}

def consoleMethods : List Text := ["log", "warn", "error", "info", "debug", "trace"]

def streamNames : List Text := ["cout", "cerr", "clog"]

theorem console_methods_apart : Apart consoleMethods := by decide

theorem stream_names_apart : Apart streamNames := by decide

/-- Blanks between two offsets, or nothing at all. -/
structure Blank (text : Array CodePoint) (start place : Nat) : Prop where
  upTo : start ≤ place
  inside : AllBetween text CodePoint.isAsciiBlank start place

structure Name (text : Array CodePoint) (start place : Nat) : Prop where
  upTo : start < place
  inside : AllBetween text CodePoint.isAsciiWord start place

/-- The text reads a lead with one of some words behind it, and blanks up to a place. -/
def WordAt (lead : Text) (words : List Text) (text : Array CodePoint) (offset place : Nat) : Prop :=
  ∃ word ∈ words, lead ++ word <+: text.toList.drop offset ∧
    Blank text (offset + (lead ++ word).length) place

def NameAt (lead : Text) (text : Array CodePoint) (offset place : Nat) : Prop :=
  lead <+: text.toList.drop offset ∧
    ∃ nameEnd, Name text (offset + lead.length) nameEnd ∧ Blank text nameEnd place

def LogsAt (text : Array CodePoint) (offset place : Nat) : Prop :=
  ∃ receiverEnd, Name text offset receiverEnd ∧
    Text.ofString ".Logs." <+: text.toList.drop receiverEnd ∧
    Name text (receiverEnd + (Text.ofString ".Logs.").length) place

section Parts

variable {rest : Pattern}

theorem prefix_append_iff {one other : Text} :
    one ++ other <+: text.toList.drop offset ↔
      one <+: text.toList.drop offset ∧ other <+: text.toList.drop (offset + one.length) := by
  rw [← List.drop_drop]
  constructor
  · rintro ⟨behind, same⟩
    rw [← same, List.append_assoc]
    simp
  · rintro ⟨⟨behind, same⟩, begins⟩
    rw [← same] at begins ⊢
    rw [List.drop_left] at begins
    exact (List.prefix_append_right_inj one).2 begins

theorem end_of_words_iff {lead : Text} {words : List Text} (apart : Apart words)
    (refuses : Refuses text rest CodePoint.isAsciiBlank) :
    (ends text (.sequence (literal lead) (.sequence (anyWord words) (.sequence blanks rest)))
        offset).head? = some stop ↔
      ∃ place, WordAt lead words text offset place ∧ (ends text rest place).head? = some stop := by
  rw [end_of_literal_iff, end_of_any_word_iff apart]
  unfold blanks
  simp only [end_of_run_iff refuses]
  constructor
  · rintro ⟨leads, word, known, stands, place, upTo, inside, ended⟩
    refine ⟨place, ⟨word, known, prefix_append_iff.2 ⟨leads, stands⟩, ?_⟩, ended⟩
    rw [List.length_append, ← Nat.add_assoc]
    exact ⟨upTo, inside⟩
  · rintro ⟨place, ⟨word, known, both, blank⟩, ended⟩
    obtain ⟨leads, stands⟩ := prefix_append_iff.1 both
    rw [List.length_append, ← Nat.add_assoc] at blank
    exact ⟨leads, word, known, stands, place, blank.upTo, blank.inside, ended⟩

theorem end_of_named_iff {lead : Text} (refuses : Refuses text rest CodePoint.isAsciiBlank)
    (alsoRefuses : Refuses text rest CodePoint.isAsciiWord) :
    (ends text (.sequence (literal lead) (.sequence word (.sequence blanks rest)))
        offset).head? = some stop ↔
      ∃ place, NameAt lead text offset place ∧ (ends text rest place).head? = some stop := by
  have blanksRefuse : Refuses text (.sequence blanks rest) CodePoint.isAsciiWord :=
    refuses_run refuses alsoRefuses fun _ => not_blank_of_word
  unfold word wordPoint
  rw [end_of_literal_iff, end_of_name_iff blanksRefuse]
  unfold blanks
  simp only [end_of_run_iff refuses]
  constructor
  · rintro ⟨leads, nameEnd, before, name, place, upTo, blank, ended⟩
    exact ⟨place, ⟨leads, nameEnd, ⟨before, name⟩, upTo, blank⟩, ended⟩
  · rintro ⟨place, ⟨leads, nameEnd, name, blank⟩, ended⟩
    exact ⟨leads, nameEnd, name.upTo, name.inside, place, blank.upTo, blank.inside, ended⟩

theorem end_of_plain_arguments_iff :
    (ends text (.sequence plainArguments rest) offset).head? = some stop ↔
      text[offset]? = some opening ∧ ∃ close, FirstMark text closing (offset + 1) close ∧
        (ends text rest (close + 1)).head? = some stop := by
  have flat : ends text (.sequence plainArguments rest) offset =
      ends text (.sequence (literal [opening]) (.sequence (.repeated (noneOf [closing]))
        (.sequence (literal [closing]) rest))) offset :=
    ends_in_order_sequence _ rest offset
  rw [flat, ends_point_sequence]
  by_cases opened : text[offset]? = some opening
  · simp only [opened, end_of_mark_iff, if_true, true_and]
  · simp [opened]

theorem refuses_arguments {accepts : CodePoint → Bool} (other : accepts opening = false)
    (patterns : List Pattern) :
    Refuses text (.sequence (inOrder (literal [opening] :: patterns)) rest) accepts := by
  intro offset point here accepted
  rw [ends_in_order_sequence]
  exact refuses_literal other [] _ offset point here accepted

theorem end_past_semicolon_iff (inside : offset ≤ text.size) :
    (ends text (.sequence (runWithout ";") (.sequence optionalSemicolon .empty))
        offset).head? = some stop ↔ PastMark text semicolon offset stop := by
  have finished : ∀ offset, ends text (.sequence optionalSemicolon .empty) offset ≠ [] := by
    intro offset
    rw [ends_semicolon]
    simp
  unfold runWithout noneOf
  rw [past_mark_iff inside, ends_run_sequence_head finished, ends_semicolon_head,
    Option.some.injEq]
  exact eq_comm

end Parts

section Grouped

def groupedRest : Pattern :=
  .sequence (.repeated (.choice (noneOf "()") flatGroup)) (.sequence (literal ")") .empty)

theorem ends_grouped_rest (offset : Nat) :
    ends text groupedRest offset = (closedFrom? text 1 offset).toList := by
  -- By induction on what is left of the text, since a round passes a point or a whole group.
  induction left : text.size - offset using Nat.strongRecOn generalizing offset with
  | ind left ih =>
      have round : ends text (.choice (noneOf "()") flatGroup) offset =
          ends text (noneOf "()") offset ++ ends text flatGroup offset := rfl
      unfold groupedRest
      rw [ends_repeated_sequence, ends_closing, round, ends_flat_group]
      change List.flatMap (ends text groupedRest) _ ++ _ = _
      cases here : text[offset]? with
      | none =>
          have nothing : ends text (noneOf "()") offset = [] := by
            apply ends_one_of_refused
            simp [here]
          rw [nothing, closed_from_end here]
          simp
      | some point =>
          have inside := (Array.getElem?_eq_some_iff.1 here).1
          by_cases parenthesis : isParenthesis point = true
          · have nothing : ends text (noneOf "()") offset = [] := by
              apply ends_one_of_refused
              intro other found
              obtain rfl := Option.some.inj (here.symm.trans found)
              simpa only [excluded_eq, Bool.not_eq_false'] using parenthesis
            unfold isParenthesis at parenthesis
            simp only [Bool.or_eq_true, decide_eq_true_eq] at parenthesis
            rcases parenthesis with rfl | rfl
            · have apart : some opening ≠ some closing := by decide
              have further : offset + 1 ≤ nextParenthesis text (offset + 1) := le_past_run _ _
              rw [nothing, List.nil_append, if_pos rfl, if_neg apart, List.append_nil,
                closed_from_open here (by decide), closed_from_two]
              split
              · have kept : offset < nextParenthesis text (offset + 1) + 1 := by omega
                rw [List.filter_cons_of_pos (by simpa using kept), List.filter_nil,
                  List.flatMap_singleton]
                exact ih _ (by omega) _ rfl
              · rfl
            · have apart : some closing ≠ some opening := by decide
              rw [nothing, closed_from_close_last here, if_neg apart, if_pos rfl]
              rfl
          · have notOpening : point ≠ opening := by
              rintro rfl
              exact parenthesis rfl
            have notClosing : point ≠ closing := by
              rintro rfl
              exact parenthesis rfl
            have other : isParenthesis point = false := by simpa using parenthesis
            have accepted : ends text (noneOf "()") offset = [offset + 1] := by
              apply ends_one_of_accepted here
              rw [excluded_eq, other]
              rfl
            rw [accepted, closed_from_other here other, ← ih _ (by omega) (offset + 1) rfl]
            simp [notOpening, notClosing]

/-- Arguments that take points and flat groups one by one end where all others do. -/
theorem ends_grouped_arguments (offset : Nat) :
    ends text groupedArguments offset = (groupEnd? text offset).toList := by
  change ends text (.sequence (literal [opening]) groupedRest) offset = _
  rw [ends_point_sequence, ends_grouped_rest]
  unfold groupEnd?
  split <;> rfl

end Grouped

section Shapes

variable {place : Nat}

/-- A parenthesis at a place, and a closing one somewhere behind it. -/
def PlainCall (text : Array CodePoint) (place : Nat) : Prop :=
  text[place]? = some opening ∧ ∃ close, place < close ∧ text[close]? = some closing

def ConsoleBegins (text : Array CodePoint) (offset place : Nat) : Prop :=
  WordAt "console." consoleMethods text offset place ∧ PlainCall text place

def LoggerBegins (text : Array CodePoint) (offset place : Nat) : Prop :=
  NameAt "logger." text offset place ∧ PlainCall text place

def LogsBegins (text : Array CodePoint) (offset place : Nat) : Prop :=
  LogsAt text offset place ∧ text[place]? = some opening ∧ ∃ stop, Returns text place stop

def StreamBegins (lead : Text) (text : Array CodePoint) (offset place : Nat) : Prop :=
  WordAt lead streamNames text offset place ∧ Text.ofString "<<" <+: text.toList.drop place

theorem plain_call_iff :
    PlainCall text place ↔
      text[place]? = some opening ∧ ∃ close, FirstMark text closing (place + 1) close := by
  unfold PlainCall
  rw [exists_first_mark_iff]
  rfl

theorem end_of_plain_call_iff {rest : Pattern} {finish : Nat → Nat} (head : Nat → Prop)
    (finished : ∀ offset, (ends text rest offset).head? = some (finish offset)) :
    (∃ place, head place ∧ (ends text (.sequence plainArguments rest) place).head? = some stop) ↔
      ∃ place, (head place ∧ PlainCall text place) ∧ ∃ close,
        FirstMark text closing (place + 1) close ∧ stop = finish (close + 1) := by
  simp only [end_of_plain_arguments_iff, finished, Option.some.injEq, plain_call_iff]
  constructor
  · rintro ⟨place, begun, opened, close, marked, rfl⟩
    exact ⟨place, ⟨begun, opened, close, marked⟩, close, marked, rfl⟩
  · rintro ⟨place, ⟨begun, opened, -⟩, close, marked, rfl⟩
    exact ⟨place, begun, opened, close, marked, rfl⟩

theorem console_end_iff :
    endAt? text console offset = some stop ↔
      ∃ place, ConsoleBegins text offset place ∧ ∃ close,
        FirstMark text closing (place + 1) close ∧ stop = pastSemicolon text (close + 1) := by
  have refuses : Refuses text (.sequence plainArguments (.sequence optionalSemicolon .empty))
      CodePoint.isAsciiBlank := refuses_arguments opening_not_blank _
  rw [endAt?_eq_head?]
  change (ends text (.sequence (literal "console.") (.sequence (anyWord consoleMethods)
    (.sequence blanks (.sequence plainArguments (.sequence optionalSemicolon .empty)))))
      offset).head? = _ ↔ _
  rw [end_of_words_iff console_methods_apart refuses]
  exact end_of_plain_call_iff _ ends_semicolon_head

theorem logger_end_iff :
    endAt? text goLogger offset = some stop ↔
      ∃ place, LoggerBegins text offset place ∧ ∃ close,
        FirstMark text closing (place + 1) close ∧ stop = close + 1 := by
  have refusesBlank : Refuses text (.sequence plainArguments .empty) CodePoint.isAsciiBlank :=
    refuses_arguments opening_not_blank _
  have refusesWord : Refuses text (.sequence plainArguments .empty) CodePoint.isAsciiWord :=
    refuses_arguments opening_not_word _
  rw [endAt?_eq_head?]
  change (ends text (.sequence (literal "logger.") (.sequence word (.sequence blanks
    (.sequence plainArguments .empty)))) offset).head? = _ ↔ _
  have finished (offset : Nat) : (ends text .empty offset).head? = some (id offset) := rfl
  rw [end_of_named_iff refusesBlank refusesWord]
  exact end_of_plain_call_iff _ finished

theorem logs_end_iff :
    endAt? text goLogs offset = some stop ↔
      ∃ place, LogsBegins text offset place ∧ ∃ closed, ClosesAt text place closed ∧
        PastMark text semicolon closed stop := by
  have tail (offset : Nat) :
      (ends text (.sequence groupedArguments (.sequence (runWithout ";")
        (.sequence optionalSemicolon .empty))) offset).head? = some stop ↔
      text[offset]? = some opening ∧ ∃ closed, ClosesAt text offset closed ∧
        PastMark text semicolon closed stop := by
    rw [ends, ends_grouped_arguments]
    cases found : groupEnd? text offset with
    | none =>
        simp only [Option.toList_none, List.flatMap_nil, List.head?_nil]
        constructor
        · intro ended
          cases ended
        · rintro ⟨opened, closed, closes, -⟩
          rw [group_end_eq_some_iff.2 ⟨opened, closes⟩] at found
          cases found
    | some closed =>
        obtain ⟨opened, closes⟩ := group_end_eq_some_iff.1 found
        rw [Option.toList_some, List.flatMap_singleton, end_past_semicolon_iff closes.inside]
        constructor
        · intro past
          exact ⟨opened, closed, closes, past⟩
        · rintro ⟨-, other, otherCloses, past⟩
          rw [group_end_eq_some_iff.2 ⟨opened, otherCloses⟩] at found
          rw [← Option.some.inj found]
          exact past
  have nameRefuses : Refuses text (.sequence groupedArguments (.sequence (runWithout ";")
      (.sequence optionalSemicolon .empty))) CodePoint.isAsciiWord :=
    refuses_arguments opening_not_word _
  rw [endAt?_eq_head?]
  change (ends text (.sequence (oneOrMore (.one CodePoint.isAsciiWord))
    (.sequence (literal ".Logs.") (.sequence (oneOrMore (.one CodePoint.isAsciiWord))
      (.sequence groupedArguments (.sequence (runWithout ";")
        (.sequence optionalSemicolon .empty)))))) offset).head? = _ ↔ _
  have receiverRefuses (rest : Pattern) :
      Refuses text (.sequence (literal ".Logs.") rest) CodePoint.isAsciiWord :=
    refuses_literal (by decide) _ rest
  rw [end_of_name_iff (receiverRefuses _)]
  simp only [end_of_literal_iff, end_of_name_iff nameRefuses, tail]
  constructor
  · rintro ⟨receiverEnd, before, receiver, logs, place, upTo, name, opened, closed, closes, past⟩
    have returns := (exists_closes_iff text place).1 ⟨closed, closes⟩
    exact ⟨place, ⟨⟨receiverEnd, ⟨before, receiver⟩, logs, upTo, name⟩, opened, returns⟩,
      closed, closes, past⟩
  · rintro ⟨place, ⟨⟨receiverEnd, receiver, logs, name⟩, opened, -⟩, closed, closes, past⟩
    exact ⟨receiverEnd, receiver.upTo, receiver.inside, logs, place, name.upTo, name.inside,
      opened, closed, closes, past⟩

theorem arrows_inside {place : Nat} (arrows : Text.ofString "<<" <+: text.toList.drop place) :
    place + 2 ≤ text.size := by
  have longer := arrows.length_le
  have size : text.toList.length = text.size := Array.length_toList
  change 2 ≤ _ at longer
  rw [List.length_drop] at longer
  omega

theorem stream_end_iff (lead : Text) :
    (ends text (.sequence (literal lead) stream) offset).head? = some stop ↔
      ∃ place, StreamBegins lead text offset place ∧
        PastMark text semicolon (place + 2) stop := by
  change (ends text (.sequence (literal lead) (.sequence (anyWord streamNames)
    (.sequence blanks (.sequence (literal "<<") (.sequence (runWithout ";")
      (.sequence optionalSemicolon .empty)))))) offset).head? = _ ↔ _
  have refuses (rest : Pattern) :
      Refuses text (.sequence (literal "<<") rest) CodePoint.isAsciiBlank :=
    refuses_literal (by decide) _ rest
  rw [end_of_words_iff stream_names_apart (refuses _)]
  simp only [end_of_literal_iff]
  constructor
  · rintro ⟨place, head, arrows, ended⟩
    exact ⟨place, ⟨head, arrows⟩, (end_past_semicolon_iff (arrows_inside arrows)).1 ended⟩
  · rintro ⟨place, ⟨head, arrows⟩, past⟩
    exact ⟨place, head, arrows, (end_past_semicolon_iff (arrows_inside arrows)).2 past⟩

theorem qualified_stream_end_iff :
    endAt? text qualifiedStream offset = some stop ↔
      ∃ place, StreamBegins "std::" text offset place ∧
        PastMark text semicolon (place + 2) stop := by
  rw [endAt?_eq_head?]
  exact stream_end_iff "std::"

theorem bare_stream_end_iff :
    endAt? text stream offset = some stop ↔
      ∃ place, StreamBegins [] text offset place ∧ PastMark text semicolon (place + 2) stop := by
  rw [endAt?_eq_head?, ← stream_end_iff, ends_literal_sequence, if_pos List.nil_prefix]
  rfl

/-- A shape matches where the text begins as it should and nowhere else, and the match ends at one
of the offsets that belong to such a beginning. -/
structure MatchedAs (text : Array CodePoint) (offset : Nat) (shape : Pattern)
    (begins : Nat → Prop) (ended : Nat → Nat → Prop) : Prop where
  found : (endAt? text shape offset).isSome = true ↔ ∃ place, begins place
  stops : ∀ stop, endAt? text shape offset = some stop ↔ ∃ place, begins place ∧ ended place stop
  unique : ∀ place other stop another, begins place → ended place stop → begins other →
    ended other another → stop = another

theorem matched_as_of_ends {shape : Pattern} {begins : Nat → Prop} {ended : Nat → Nat → Prop}
    (stops : ∀ stop, endAt? text shape offset = some stop ↔
      ∃ place, begins place ∧ ended place stop)
    (complete : ∀ place, begins place → ∃ stop, ended place stop) :
    MatchedAs text offset shape begins ended where
  found := by
    rw [Option.isSome_iff_exists]
    constructor
    · rintro ⟨stop, matched⟩
      obtain ⟨place, begun, -⟩ := (stops stop).1 matched
      exact ⟨place, begun⟩
    · rintro ⟨place, begun⟩
      obtain ⟨stop, finished⟩ := complete place begun
      exact ⟨stop, (stops stop).2 ⟨place, begun, finished⟩⟩
  stops := stops
  unique := by
    intro place other stop another begun finished alsoBegun alsoFinished
    have matched := (stops stop).2 ⟨place, begun, finished⟩
    rw [(stops another).2 ⟨other, alsoBegun, alsoFinished⟩] at matched
    exact (Option.some.inj matched).symm

theorem exists_past_mark (text : Array CodePoint) (mark : CodePoint) (start : Nat) :
    ∃ stop, PastMark text mark start stop := by
  by_cases marked : ∃ place, start ≤ place ∧ text[place]? = some mark
  · obtain ⟨place, first⟩ := exists_first_mark_iff.2 marked
    exact ⟨place + 1, Or.inl ⟨place, first, rfl⟩⟩
  · exact ⟨text.size, Or.inr ⟨fun place after here => marked ⟨place, after, here⟩, rfl⟩⟩

/-- Each shape of a language matches exactly where the text reads as described, and ends in one
place. A call of a console or of a logger ends behind the first closing parenthesis, the former
behind a semicolon that comes next. A call on a collection of logs ends behind the first semicolon
that follows its balanced arguments, output to a stream behind the first one that follows its
arrows, and both at the end of the text if there is none. -/
theorem shapes_matched_as_described (text : Array CodePoint) (offset : Nat) :
    MatchedAs text offset console (ConsoleBegins text offset) (fun place stop =>
      ∃ close, FirstMark text closing (place + 1) close ∧ stop = pastSemicolon text (close + 1)) ∧
    MatchedAs text offset goLogger (LoggerBegins text offset) (fun place stop =>
      ∃ close, FirstMark text closing (place + 1) close ∧ stop = close + 1) ∧
    MatchedAs text offset goLogs (LogsBegins text offset) (fun place stop =>
      ∃ closed, ClosesAt text place closed ∧ PastMark text semicolon closed stop) ∧
    MatchedAs text offset qualifiedStream (StreamBegins "std::" text offset) (fun place stop =>
      PastMark text semicolon (place + 2) stop) ∧
    MatchedAs text offset stream (StreamBegins [] text offset) (fun place stop =>
      PastMark text semicolon (place + 2) stop) := by
  have plainEnds {place : Nat} (call : PlainCall text place) :
      ∃ close, FirstMark text closing (place + 1) close := (plain_call_iff.1 call).2
  refine ⟨?_, ?_, ?_, ?_, ?_⟩
  · apply matched_as_of_ends fun _ => console_end_iff
    rintro place ⟨-, call⟩
    obtain ⟨close, marked⟩ := plainEnds call
    exact ⟨_, close, marked, rfl⟩
  · apply matched_as_of_ends fun _ => logger_end_iff
    rintro place ⟨-, call⟩
    obtain ⟨close, marked⟩ := plainEnds call
    exact ⟨_, close, marked, rfl⟩
  · apply matched_as_of_ends fun _ => logs_end_iff
    rintro place ⟨-, -, returns⟩
    obtain ⟨closed, closes⟩ := (exists_closes_iff text place).2 returns
    obtain ⟨stop, past⟩ := exists_past_mark text semicolon closed
    exact ⟨stop, closed, closes, past⟩
  · apply matched_as_of_ends fun _ => qualified_stream_end_iff
    exact fun place _ => exists_past_mark text semicolon (place + 2)
  · apply matched_as_of_ends fun _ => bare_stream_end_iff
    exact fun place _ => exists_past_mark text semicolon (place + 2)

end Shapes

end Statement

end Dimming
