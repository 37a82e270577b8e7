import Dimming.Proofs.Pattern.Search
import Dimming.Proofs.Statement.Lexical
import Dimming.Statement.Detection

/-!
# Calls inside of calls

The search goes on behind a match, so a call that begins inside of another one is never tried for
itself. It does not have to be: whatever ends at a first mark ends at the same one as a match that
it begins in, and a call in the arguments of another one is complete before these are closed.
-/

set_option autoImplicit false

namespace Dimming

namespace Statement

open Pattern

variable {text : Array CodePoint} {start stop offset place : Nat}

section Stretches

variable {accepts : CodePoint → Bool} {mark : CodePoint}

theorem all_between_of_stands {word : Text} (stands : word <+: text.toList.drop offset)
    (accepted : ∀ point ∈ word, accepts point = true) :
    AllBetween text accepts offset (offset + word.length) := by
  obtain ⟨behind, same⟩ := stands
  intro between after before
  obtain ⟨index, rfl⟩ := Nat.exists_eq_add_of_le after
  have inside : index < word.length := by omega
  have found : text[offset + index]? = some word[index] := by
    rw [← Array.getElem?_toList, ← List.getElem?_drop, ← same, List.getElem?_append_left inside,
      List.getElem?_eq_getElem inside]
  rw [found, Option.any_some]
  exact accepted _ (List.getElem_mem inside)

theorem all_between_append (one : AllBetween text accepts start place)
    (other : AllBetween text accepts place stop) : AllBetween text accepts start stop := by
  intro between after before
  by_cases first : between < place
  · exact one between after first
  · exact other between (Nat.le_of_not_lt first) before

theorem all_between_imp {others : CodePoint → Bool} (all : AllBetween text accepts start stop)
    (implied : ∀ point, accepts point = true → others point = true) :
    AllBetween text others start stop := by
  intro between after before
  obtain ⟨point, here, accepted⟩ := (Option.any_eq_true _ _).1 (all between after before)
  rw [here, Option.any_some]
  exact implied point accepted

theorem not_mark_of_all_between (all : AllBetween text accepts start stop)
    (other : accepts mark = false) :
    ∀ between, start ≤ between → between < stop → text[between]? ≠ some mark := by
  intro between after before here
  have accepted := all between after before
  rw [here, Option.any_some, other] at accepted
  cases accepted

theorem word_at_between {lead : Text} {words : List Text}
    (head : WordAt lead words text offset place)
    (read : ∀ word ∈ words, ∀ point ∈ lead ++ word, accepts point = true)
    (blank : ∀ point, point.isAsciiBlank = true → accepts point = true) :
    AllBetween text accepts offset place := by
  obtain ⟨word, known, stands, blanks⟩ := head
  exact all_between_append (all_between_of_stands stands (read word known))
    (all_between_imp blanks.inside blank)

theorem name_at_between {lead : Text} (head : NameAt lead text offset place)
    (read : ∀ point ∈ lead, accepts point = true)
    (named : ∀ point, point.isAsciiWord = true → accepts point = true)
    (blank : ∀ point, point.isAsciiBlank = true → accepts point = true) :
    AllBetween text accepts offset place := by
  obtain ⟨stands, nameEnd, name, blanks⟩ := head
  exact all_between_append (all_between_of_stands stands read)
    (all_between_append (all_between_imp name.inside named) (all_between_imp blanks.inside blank))

end Stretches

section Marks

variable {mark : CodePoint}

theorem first_mark_before
    (clean : ∀ between, start ≤ between → between < offset → text[between]? ≠ some mark)
    (upTo : start ≤ offset) (marked : FirstMark text mark offset place) :
    FirstMark text mark start place := by
  have later := marked.later
  refine ⟨by omega, marked.here, fun between after before => ?_⟩
  by_cases first : between < offset
  · exact clean between after first
  · exact marked.first between (Nat.le_of_not_lt first) before

theorem first_mark_after (marked : FirstMark text mark start place) (after : start ≤ offset)
    (upTo : offset ≤ place) : FirstMark text mark offset place :=
  ⟨upTo, marked.here, fun between later before => marked.first between (by omega) before⟩

theorem past_mark_before
    (clean : ∀ between, start ≤ between → between < offset → text[between]? ≠ some mark)
    (upTo : start ≤ offset) (past : PastMark text mark offset stop) :
    PastMark text mark start stop := by
  rcases past with ⟨place, marked, rfl⟩ | ⟨none, rfl⟩
  · exact Or.inl ⟨place, first_mark_before clean upTo marked, rfl⟩
  · refine Or.inr ⟨fun between after => ?_, rfl⟩
    by_cases first : between < offset
    · exact clean between after first
    · exact none between (Nat.le_of_not_lt first)

theorem past_mark_unique {inner : Nat} (outer : PastMark text mark start stop)
    (after : start ≤ offset) (before : offset < stop) (past : PastMark text mark offset inner) :
    inner = stop := by
  rcases outer with ⟨place, marked, rfl⟩ | ⟨none, rfl⟩
  · have same := first_mark_after marked after (by omega)
    rcases past with ⟨other, alsoMarked, rfl⟩ | ⟨none, -⟩
    · rw [first_mark_unique same alsoMarked]
    · exact absurd same.here (none place same.later)
  · rcases past with ⟨other, marked, -⟩ | ⟨-, rfl⟩
    · exact absurd marked.here (none other (Nat.le_trans after marked.later))
    · rfl

end Marks

/-- A match that begins inside of another one does not go on past its end. -/
def Encloses (text : Array CodePoint) (shape : Pattern) : Prop :=
  ∀ {start stop offset inner : Nat}, endAt? text shape start = some stop → start < offset →
    offset < stop → endAt? text shape offset = some inner → inner ≤ stop

section Marked

def isPlain (point : CodePoint) : Bool := point != closing && point != semicolon

theorem plain_of_blank (point : CodePoint) (blank : point.isAsciiBlank = true) :
    isPlain point = true := by
  unfold isPlain
  rw [Bool.and_eq_true, bne_iff_ne, bne_iff_ne]
  constructor <;> rintro rfl <;> cases blank

theorem plain_of_word (point : CodePoint) (word : point.isAsciiWord = true) :
    isPlain point = true := by
  unfold isPlain
  rw [Bool.and_eq_true, bne_iff_ne, bne_iff_ne]
  constructor <;> rintro rfl <;> cases word

theorem le_past_semicolon (text : Array CodePoint) (offset : Nat) :
    offset ≤ pastSemicolon text offset ∧ pastSemicolon text offset ≤ offset + 1 := by
  unfold pastSemicolon
  split <;> omega

/-- Behind its head a call with plain arguments is closed by the first parenthesis there is from
its beginning on, and it does not begin with the semicolon of another one. -/
theorem encloses_of_plain_call {shape : Pattern} (finish : Nat → Nat)
    (ends : ∀ {offset stop : Nat}, endAt? text shape offset = some stop →
      ∃ place, AllBetween text isPlain offset place ∧ offset < place ∧
        text[place]? = some opening ∧ ∃ close, FirstMark text closing (place + 1) close ∧
          stop = finish (close + 1))
    (near : ∀ offset, finish offset ≤ pastSemicolon text offset) : Encloses text shape := by
  have closedFirst {offset stop : Nat} (matched : endAt? text shape offset = some stop) :
      text[offset]?.any isPlain = true ∧ ∃ close, FirstMark text closing offset close ∧
        stop = finish (close + 1) := by
    obtain ⟨place, head, before, opened, close, marked, rfl⟩ := ends matched
    refine ⟨head offset (Nat.le_refl _) before, close, ?_, rfl⟩
    refine first_mark_before (fun between after upTo => ?_) (by omega) marked
    rcases Nat.eq_or_lt_of_le (Nat.le_of_lt_succ upTo) with rfl | upTo
    · rw [opened]
      decide
    · exact not_mark_of_all_between head (by decide) between after upTo
  intro start stop offset inner outerMatched after before innerMatched
  obtain ⟨-, close, outer, rfl⟩ := closedFirst outerMatched
  obtain ⟨plain, other, marked, rfl⟩ := closedFirst innerMatched
  have upTo : offset ≤ close := by
    have bound := Nat.lt_of_lt_of_le before (near (close + 1))
    by_contra behind
    unfold pastSemicolon at bound
    split at bound
    next found =>
        obtain rfl : offset = close + 1 := by omega
        rw [found] at plain
        cases plain
    next => omega
  have same := first_mark_after outer (Nat.le_of_lt after) upTo
  have ended := first_mark_unique same marked
  exact Nat.le_of_eq (congrArg (fun place => finish (place + 1)) ended.symm)

theorem console_encloses : Encloses text console := by
  refine encloses_of_plain_call (pastSemicolon text) (fun matched => ?_) fun _ =>
    Nat.le_refl _
  obtain ⟨place, ⟨head, call⟩, ended⟩ := console_end_iff.1 matched
  refine ⟨place, word_at_between head (by decide) plain_of_blank, ?_, call.1, ended⟩
  obtain ⟨word, known, -, blanks⟩ := head
  have upTo := blanks.upTo
  rw [List.length_append] at upTo
  have lead : (Text.ofString "console.").length = 8 := rfl
  omega

theorem logger_encloses : Encloses text goLogger := by
  refine encloses_of_plain_call id (fun matched => ?_) fun offset =>
    (le_past_semicolon text offset).1
  obtain ⟨place, ⟨head, call⟩, ended⟩ := logger_end_iff.1 matched
  refine ⟨place, name_at_between head (by decide) plain_of_word plain_of_blank, ?_, call.1, ended⟩
  obtain ⟨-, nameEnd, name, blanks⟩ := head
  have upTo := blanks.upTo
  have named := name.upTo
  omega

/-- No semicolon stands in what output to a stream begins with, so it ends past the first one there is
from its beginning on. -/
theorem stream_past_semicolon {lead : Text}
    (read : ∀ word ∈ streamNames, ∀ point ∈ lead ++ word, isPlain point = true)
    (begins : StreamBegins lead text offset place)
    (past : PastMark text semicolon (place + 2) stop) : PastMark text semicolon offset stop := by
  obtain ⟨head, arrows⟩ := begins
  have arrowsPlain : AllBetween text isPlain place (place + 2) :=
    all_between_of_stands arrows (by decide)
  have clean := all_between_append (word_at_between head read plain_of_blank) arrowsPlain
  obtain ⟨word, -, -, blanks⟩ := head
  have upTo := blanks.upTo
  exact past_mark_before (not_mark_of_all_between clean (by decide)) (by omega) past

theorem encloses_of_stream {shape : Pattern} {lead : Text}
    (read : ∀ word ∈ streamNames, ∀ point ∈ lead ++ word, isPlain point = true)
    (ends : ∀ {offset stop : Nat}, endAt? text shape offset = some stop →
      ∃ place, StreamBegins lead text offset place ∧ PastMark text semicolon (place + 2) stop) :
    Encloses text shape := by
  have past {offset stop : Nat} (matched : endAt? text shape offset = some stop) :
      PastMark text semicolon offset stop := by
    obtain ⟨place, begins, past⟩ := ends matched
    exact stream_past_semicolon read begins past
  intro start stop offset inner outer after before matched
  exact Nat.le_of_eq (past_mark_unique (past outer) (Nat.le_of_lt after) before (past matched))

theorem qualified_stream_encloses : Encloses text qualifiedStream :=
  encloses_of_stream (by decide) qualified_stream_end_iff.1

theorem stream_encloses : Encloses text stream :=
  encloses_of_stream (by decide) bare_stream_end_iff.1

end Marked

section Groups

/-- The offset is inside of a group that is closed in front of another one. -/
def InGroup (text : Array CodePoint) (offset stop : Nat) : Prop :=
  closedFrom? text 1 offset = some stop ∨ closedFrom? text 2 offset = some stop

theorem InGroup.later (inside : InGroup text offset stop) : offset < stop := by
  have positive (depth : Nat) (closed : closedFrom? text depth offset = some stop) :
      offset < stop := by
    obtain ⟨count, found, rfl⟩ := Option.map_eq_some_iff.1 closed
    have some : count ≠ 0 := by
      rintro rfl
      exact closing_ne_zero _ _ found
    omega
  exact inside.elim (positive 1) (positive 2)

theorem InGroup.next (inside : InGroup text offset stop) (before : offset + 1 < stop) :
    InGroup text (offset + 1) stop := by
  cases here : text[offset]? with
  | none =>
      unfold InGroup at inside
      rw [closed_from_end here, closed_from_end here] at inside
      simp at inside
  | some point =>
      by_cases parenthesis : isParenthesis point = true
      · unfold isParenthesis at parenthesis
        simp only [Bool.or_eq_true, decide_eq_true_eq] at parenthesis
        rcases parenthesis with rfl | rfl
        · rcases inside with closed | closed
          · rw [closed_from_open here (by decide)] at closed
            exact Or.inr closed
          · rw [closed_from_open_full here (by decide)] at closed
            cases closed
        · rcases inside with closed | closed
          · rw [closed_from_close_last here, Option.some.injEq] at closed
            omega
          · rw [closed_from_close here] at closed
            exact Or.inl closed
      · have other : isParenthesis point = false := by simpa using parenthesis
        unfold InGroup at inside
        rw [closed_from_other here other, closed_from_other here other] at inside
        exact inside

theorem InGroup.upTo (inside : InGroup text start stop) (after : start ≤ place)
    (before : place < stop) : InGroup text place stop := by
  induction after with
  | refl => exact inside
  | step after ih => exact (ih (by omega)).next before

theorem InGroup.past (inside : InGroup text start stop) (upTo : start ≤ place)
    (flat : AllBetween text (fun point => !isParenthesis point) start place) :
    InGroup text place stop := by
  induction upTo with
  | refl => exact inside
  | @step place after ih =>
      have reached := ih fun between later before => flat between later (by omega)
      obtain ⟨point, here, other⟩ :=
        (Option.any_eq_true _ _).1 (flat place after (Nat.lt_succ_self place))
      rw [Bool.not_eq_true'] at other
      unfold InGroup at reached
      rw [closed_from_other here other, closed_from_other here other] at reached
      exact reached

/-- A group inside of another one is flat, and behind it the outer one is still open. -/
theorem InGroup.past_group {close : Nat} (inside : InGroup text place stop)
    (found : groupEnd? text place = some close) : InGroup text close stop := by
  unfold groupEnd? at found
  split at found
  next here =>
      rcases inside with closed | closed
      · rw [closed_from_open here (by decide), closed_from_two] at closed
        split at closed
        next next =>
            rw [← closed_from_next, closed_from_close_last next, Option.some.injEq] at found
            rw [found] at closed
            exact Or.inl closed
        next => cases closed
      · rw [closed_from_open_full here (by decide)] at closed
        cases closed
  next => cases found

end Groups

section Chains

variable {receiver : Text} {nameEnd next : Nat}

theorem flat_of_word (point : CodePoint) (word : point.isAsciiWord = true) :
    (!isParenthesis point) = true := by
  rw [Bool.not_eq_true']
  by_contra parenthesis
  simp only [Bool.not_eq_false, isParenthesis, Bool.or_eq_true, decide_eq_true_eq] at parenthesis
  rcases parenthesis with rfl | rfl <;> cases word

theorem flat_of_blank (point : CodePoint) (blank : point.isAsciiBlank = true) :
    (!isParenthesis point) = true := by
  rw [Bool.not_eq_true']
  by_contra parenthesis
  simp only [Bool.not_eq_false, isParenthesis, Bool.or_eq_true, decide_eq_true_eq] at parenthesis
  rcases parenthesis with rfl | rfl <;> cases blank

theorem NamedCall.upTo (call : NamedCall text start nameEnd place) : start + 1 < place :=
  Nat.lt_of_lt_of_le call.named call.apart

theorem NamedCall.flat (call : NamedCall text start nameEnd place) :
    AllBetween text (fun point => !isParenthesis point) start place := by
  have dotted : AllBetween text (fun point => !isParenthesis point) start (start + 1) := by
    intro between after before
    obtain rfl : between = start := by omega
    rw [call.dotted]
    rfl
  exact all_between_append dotted (all_between_append (all_between_imp call.name flat_of_word)
    (all_between_imp call.blank flat_of_blank))

theorem NamedCall.not_dotted (call : NamedCall text start nameEnd place) (after : start < offset)
    (upTo : offset ≤ place) : text[offset]? ≠ some dot := by
  intro here
  rcases Nat.eq_or_lt_of_le upTo with rfl | before
  · rw [call.opened] at here
    cases here
  · by_cases named : offset < nameEnd
    · exact not_mark_of_all_between call.name (by decide) offset after named here
    · exact not_mark_of_all_between call.blank (by decide) offset (by omega) before here

theorem InGroup.past_link (inside : InGroup text offset stop)
    (found : linkEnd? text offset = some next) : InGroup text next stop := by
  obtain ⟨nameEnd, place, call, closes⟩ := link_end_eq_some_iff.1 found
  have upTo := call.upTo
  have opened := inside.past (by omega) call.flat
  exact opened.past_group (group_end_eq_some_iff.2 ⟨call.opened, closes⟩)

theorem InGroup.past_links (inside : InGroup text offset stop) :
    InGroup text (pastLinks text offset) stop := by
  induction offset using chain_induction text with
  | last offset found =>
      rw [past_links_of_none found]
      exact inside
  | more offset next found ih =>
      rw [past_links_of_some found]
      exact ih (inside.past_link found)

theorem le_past_links (text : Array CodePoint) (offset : Nat) :
    offset ≤ pastLinks text offset := by
  induction offset using chain_induction text with
  | last offset found => exact Nat.le_of_eq (past_links_of_none found).symm
  | more offset next found ih =>
      rw [past_links_of_some found]
      exact Nat.le_trans (Nat.le_of_lt (link_end_onward found).1) ih

theorem link_covering (after : start ≤ offset) (before : offset < pastLinks text start) :
    ∃ begun next, linkEnd? text begun = some next ∧ begun ≤ offset ∧ offset < next ∧
      next ≤ pastLinks text start := by
  induction start using chain_induction text with
  | last start found =>
      rw [past_links_of_none found] at before
      omega
  | more start next found ih =>
      rw [past_links_of_some found] at before ⊢
      by_cases first : offset < next
      · exact ⟨start, next, found, after, first, le_past_links text next⟩
      · exact ih (Nat.le_of_not_lt first) before

theorem receiver_words (known : receiver ∈ receivers) :
    0 < receiver.length ∧ ∀ point ∈ receiver, point.isAsciiWord = true := by
  rcases List.mem_pair.1 known with rfl | rfl
  · exact ⟨by decide, by decide⟩
  · exact ⟨by decide, by decide⟩

/-- Where the statement of a receiver is that ends at an offset: the receiver stands alone, calls
are chained to it, and a semicolon may come last. -/
theorem statement_parts (known : receiver ∈ receivers)
    (found : statementEnd? receiver text offset = some stop) :
    isWordAt (before? text offset) = false ∧
      AllBetween text CodePoint.isAsciiWord offset (offset + receiver.length) ∧
      text[offset + receiver.length]? = some dot ∧
      stop = pastSemicolon text (pastLinks text (offset + receiver.length)) := by
  unfold statementEnd? at found
  split at found
  next start =>
      obtain ⟨first, link, rfl⟩ := Option.map_eq_some_iff.1 found
      obtain ⟨nameEnd, place, call, -⟩ := link_end_eq_some_iff.1 link
      refine ⟨start.1, all_between_of_stands start.2 (receiver_words known).2, call.dotted, ?_⟩
      rw [past_links_of_some link]
  next => cases found

theorem InGroup.statement_end_le (known : receiver ∈ receivers) (inside : InGroup text offset stop)
    {inner : Nat} (found : statementEnd? receiver text offset = some inner) : inner ≤ stop := by
  obtain ⟨-, words, -, rfl⟩ := statement_parts known found
  have opened := inside.past (Nat.le_add_right _ _) (all_between_imp words flat_of_word)
  have later := opened.past_links.later
  have near := (le_past_semicolon text (pastLinks text (offset + receiver.length))).2
  omega

theorem NamedCall.no_statement (known : receiver ∈ receivers)
    (call : NamedCall text start nameEnd place) (after : start ≤ offset) (upTo : offset ≤ place) :
    statementEnd? receiver text offset = none := by
  rw [Option.eq_none_iff_forall_ne_some]
  intro inner found
  obtain ⟨-, words, dotted, -⟩ := statement_parts known found
  have some := (receiver_words known).1
  rcases Nat.eq_or_lt_of_le after with rfl | after
  · exact not_mark_of_all_between words (by decide) start (Nat.le_refl _) (by omega) call.dotted
  · by_cases reached : offset + receiver.length ≤ place
    · exact call.not_dotted (by omega) reached dotted
    · exact not_mark_of_all_between words opening_not_word place upTo (by omega) call.opened

theorem chain_encloses (known : receiver ∈ receivers) : Encloses text (chainOn receiver) := by
  intro start stop offset inner outerMatched after before innerMatched
  rw [chain_end_at known] at outerMatched innerMatched
  obtain ⟨-, outerWords, -, rfl⟩ := statement_parts known outerMatched
  obtain ⟨apart, words, -, -⟩ := statement_parts known innerMatched
  have onward := (le_past_semicolon text (pastLinks text (start + receiver.length))).1
  have first := words offset (Nat.le_refl _)
    (Nat.lt_add_of_pos_right (receiver_words known).1)
  by_cases inReceiver : offset < start + receiver.length + 1
  · -- A point of the receiver comes right before.
    obtain ⟨previous, rfl⟩ := Nat.exists_eq_add_of_lt after
    have word := outerWords (start + previous) (Nat.le_add_right _ _) (by omega)
    change isWordAt text[start + previous]? = true at word
    change isWordAt text[start + previous]? = false at apart
    rw [word] at apart
    cases apart
  · by_cases inChain : offset < pastLinks text (start + receiver.length)
    · obtain ⟨begun, next, link, fromLink, inLink, last⟩ :=
        link_covering (Nat.le_of_not_lt fun less => inReceiver (Nat.lt_succ_of_lt less)) inChain
      obtain ⟨nameEnd, place, call, closes⟩ := link_end_eq_some_iff.1 link
      by_cases inHead : offset ≤ place
      · rw [call.no_statement known fromLink inHead] at innerMatched
        cases innerMatched
      · have group : closedFrom? text 1 (place + 1) = some next := by
          have found := group_end_eq_some_iff.2 ⟨call.opened, closes⟩
          rwa [groupEnd?, if_pos call.opened] at found
        have inside : InGroup text (place + 1) next := Or.inl group
        have ended := (inside.upTo (by omega) inLink).statement_end_le known innerMatched
        omega
    · -- Only the semicolon is left.
      unfold pastSemicolon at before
      split at before
      next found =>
          obtain rfl : offset = pastLinks text (start + receiver.length) := by omega
          rw [found] at first
          cases first
      next => omega

end Chains

def enclosing : List Pattern := [console, goLogger, qualifiedStream, stream] ++ general

theorem encloses_of_enclosing {shape : Pattern} (known : shape ∈ enclosing) :
    Encloses text shape := by
  unfold enclosing at known
  rw [general_eq] at known
  simp only [List.mem_append, List.mem_cons, List.not_mem_nil, or_false, List.mem_map] at known
  rcases known with (rfl | rfl | rfl | rfl) | ⟨receiver, known, rfl⟩
  · exact console_encloses
  · exact logger_encloses
  · exact qualified_stream_encloses
  · exact stream_encloses
  · exact chain_encloses known

section Reported

variable {language : Text} {shape : Pattern} {before behind : List Pattern}

theorem spans_eq (text language : Text) :
    spans text language = (Dialect.ofLanguage language).searched.flatMap (Span.findAll text) := by
  unfold spans
  cases text with
  | nil =>
      generalize Dialect.ofLanguage language = dialect
      cases dialect <;> rfl
  | cons point text => rfl

theorem exists_span_enclosing (text : Text) (encloses : Encloses text.toArray shape)
    (inside : offset ≤ text.length) (matched : endAt? text.toArray shape offset = some stop) :
    ∃ span ∈ Span.findAll text shape, span.start ≤ offset ∧ stop ≤ span.stop := by
  have scanned := Span.exhausts_find_all text shape
  have found : (endAt? text.toArray shape offset).isSome = true := by rw [matched, Option.isSome_some]
  obtain ⟨span, among, placed⟩ := scanned.covered offset (Nat.zero_le _) inside found
  have outer := scanned.matched span among
  rcases placed with rfl | ⟨after, upTo⟩
  · rw [matched, Option.some.injEq] at outer
    exact ⟨span, among, Nat.le_refl _, Nat.le_of_eq outer⟩
  · exact ⟨span, among, Nat.le_of_lt after, encloses outer after upTo matched⟩

/-- Among the matches that are reported for a shape there is one that covers each call that the
shape matches, wherever the call begins; and one that begins inside of a reported match does not
go on past its end. So no call is left dimmed in part. -/
theorem every_call_covered
    (searched : (Dialect.ofLanguage language).searched = before ++ shape :: behind)
    (known : shape ∈ enclosing) (text : Text) :
    spans text language =
        before.flatMap (Span.findAll text) ++ Span.findAll text shape ++
          behind.flatMap (Span.findAll text) ∧
      ∀ offset stop, offset ≤ text.length → endAt? text.toArray shape offset = some stop →
        (∃ span ∈ Span.findAll text shape, span.start ≤ offset ∧ stop ≤ span.stop) ∧
          ∀ span ∈ Span.findAll text shape, span.start < offset → offset < span.stop →
            stop ≤ span.stop := by
  have encloses : Encloses text.toArray shape := encloses_of_enclosing known
  constructor
  · rw [spans_eq, searched, List.flatMap_append, List.flatMap_cons, List.append_assoc]
  · intro offset stop inside matched
    refine ⟨exists_span_enclosing text encloses inside matched, ?_⟩
    intro span among after upTo
    exact encloses ((Span.exhausts_find_all text shape).matched span among) after upTo matched

/-- The call in the arguments of another one is inside of the only match there is. -/
theorem call_in_arguments_covered :
    (Dialect.ofLanguage "go").searched = [goLogger, goLogs] ++ chainOn "log" :: [chainOn "Log"] ∧
      chainOn "log" ∈ enclosing ∧
      endAt? (Text.ofString "log.info(log.debug(x));").toArray (chainOn "log") 9 = some 21 ∧
      ∃ span ∈ Span.findAll "log.info(log.debug(x));" (chainOn "log"),
        span.start ≤ 9 ∧ 21 ≤ span.stop := by
  have searched : (Dialect.ofLanguage "go").searched =
      [goLogger, goLogs] ++ chainOn "log" :: [chainOn "Log"] := rfl
  have known : chainOn "log" ∈ enclosing :=
    List.mem_append_right _ List.mem_cons_self
  have matched : endAt? (Text.ofString "log.info(log.debug(x));").toArray (chainOn "log") 9 =
      some 21 := by
    decide +kernel
  have covered := (every_call_covered searched known "log.info(log.debug(x));").2
  exact ⟨searched, known, matched, (covered 9 21 (by decide) matched).1⟩

end Reported

end Statement

end Dimming
