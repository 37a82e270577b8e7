import Dimming.Proofs.Pattern.Ends
import Mathlib.Data.List.Pairwise

/-!
# Words and marks

Ends of the simple parts of a pattern: a word that is one of several, a run of points that makes
a name, and everything up to a mark. None of these leaves a choice as long as no word begins
another one and what comes behind a run cannot begin inside of it.
-/

set_option autoImplicit false

namespace Dimming

namespace Pattern

variable {text : Array CodePoint}

theorem past_run_le_size (accepts : CodePoint → Bool) {offset : Nat} (inside : offset ≤ text.size) :
    pastRun text accepts offset ≤ text.size := by
  have shorter := (List.takeWhile_sublist accepts (l := text.toList.drop offset)).length_le
  have size : text.toList.length = text.size := Array.length_toList
  rw [List.length_drop] at shorter
  unfold pastRun
  omega

theorem ends_in_order_sequence (patterns : List Pattern) (rest : Pattern) (offset : Nat) :
    ends text (.sequence (inOrder patterns) rest) offset =
      ends text (patterns.foldr .sequence rest) offset := by
  induction patterns generalizing offset with
  | nil => simp [inOrder, ends]
  | cons pattern patterns ih =>
      change ends text (.sequence (.sequence pattern (inOrder patterns)) rest) offset = _
      rw [ends_sequence_assoc, ends, List.foldr_cons, ends]
      exact List.flatMap_congr fun between _ => ih between

section Names

variable {accepts : CodePoint → Bool} {rest : Pattern}

theorem ends_name_sequence
    (refuses : ∀ offset point, text[offset]? = some point → accepts point = true →
      ends text rest offset = []) (offset : Nat) :
    ends text (.sequence (oneOrMore (.one accepts)) rest) offset =
      if text[offset]?.any accepts then ends text rest (pastRun text accepts offset) else [] := by
  unfold oneOrMore
  rw [ends_sequence_assoc, ends_one_sequence, ends_run_sequence refuses]
  cases here : text[offset]? with
  | none => rfl
  | some point =>
      by_cases accepted : accepts point = true
      · rw [past_run_of_accepted here accepted]
      · simp [accepted]

theorem ends_run_sequence_head (matched : ∀ offset, ends text rest offset ≠ []) (offset : Nat) :
    (ends text (.sequence (.repeated (.one accepts)) rest) offset).head? =
      (ends text rest (pastRun text accepts offset)).head? := by
  induction offset using run_induction text accepts with
  | stops offset refused =>
      rw [ends_repeated_sequence, ends_one_of_refused refused, past_run_of_refused refused]
      rfl
  | goes offset point here accepted ih =>
      have found : (ends text rest (pastRun text accepts (offset + 1))).head?.isSome = true :=
        List.isSome_head?.2 (matched _)
      rw [ends_repeated_sequence, ends_one_of_accepted here accepted,
        List.filter_cons_of_pos (by simp), List.filter_nil, List.flatMap_singleton,
        List.head?_append, ih, past_run_of_accepted here accepted, Option.or_of_isSome found]

theorem ends_name_sequence_head (matched : ∀ offset, ends text rest offset ≠ []) (offset : Nat) :
    (ends text (.sequence (oneOrMore (.one accepts)) rest) offset).head? =
      if text[offset]?.any accepts then (ends text rest (pastRun text accepts offset)).head?
      else none := by
  unfold oneOrMore
  rw [ends_sequence_assoc, ends_one_sequence]
  cases here : text[offset]? with
  | none => rfl
  | some point =>
      rw [Option.any_some]
      split
      next accepted => rw [ends_run_sequence_head matched, past_run_of_accepted here accepted]
      next => rfl

theorem ends_optional_sequence (pattern rest : Pattern) (offset : Nat) :
    ends text (.sequence (optional pattern) rest) offset =
      ends text (.sequence pattern rest) offset ++ ends text rest offset := by
  simp only [optional, ends, List.flatMap_append, List.flatMap_singleton]

theorem ends_choice_sequence (first second rest : Pattern) (offset : Nat) :
    ends text (.sequence (.choice first second) rest) offset =
      ends text (.sequence first rest) offset ++ ends text (.sequence second rest) offset := by
  simp only [ends, List.flatMap_append]

/-- What cannot begin at certain points. -/
def Refuses (text : Array CodePoint) (rest : Pattern) (accepts : CodePoint → Bool) : Prop :=
  ∀ offset point, text[offset]? = some point → accepts point = true → ends text rest offset = []

theorem refuses_literal {first : CodePoint} (other : accepts first = false) (word : Text)
    (rest : Pattern) : Refuses text (.sequence (literal (first :: word)) rest) accepts := by
  intro offset point here accepted
  rw [ends_literal_sequence, drop_of_point here, if_neg]
  intro begins
  obtain ⟨rfl, -⟩ := List.cons_prefix_cons.1 begins
  simp [other] at accepted

theorem refuses_run {others : CodePoint → Bool} (refuses : Refuses text rest accepts)
    (alsoRefuses : Refuses text rest others)
    (distinct : ∀ point, others point = true → accepts point = false) :
    Refuses text (.sequence (.repeated (.one accepts)) rest) others := by
  intro offset point here accepted
  have refused : ∀ point, text[offset]? = some point → accepts point = false := by
    intro other found
    obtain rfl := Option.some.inj (here.symm.trans found)
    exact distinct point accepted
  rw [ends_run_sequence refuses, past_run_of_refused refused]
  exact alsoRefuses offset point here accepted

theorem refused_of_end (refuses : Refuses text rest accepts) {place stop : Nat}
    (ended : (ends text rest place).head? = some stop) :
    ∀ point, text[place]? = some point → accepts point = false := by
  intro point here
  by_contra accepted
  rw [refuses place point here (by simpa using accepted)] at ended
  cases ended

theorem end_of_literal_iff {word : Text} {offset stop : Nat} :
    (ends text (.sequence (literal word) rest) offset).head? = some stop ↔
      word <+: text.toList.drop offset ∧
        (ends text rest (offset + word.length)).head? = some stop := by
  rw [ends_literal_sequence]
  by_cases stands : word <+: text.toList.drop offset <;> simp [stands]

theorem end_of_run_iff (refuses : Refuses text rest accepts) {offset stop : Nat} :
    (ends text (.sequence (.repeated (.one accepts)) rest) offset).head? = some stop ↔
      ∃ place, offset ≤ place ∧ AllBetween text accepts offset place ∧
        (ends text rest place).head? = some stop := by
  rw [ends_run_sequence refuses]
  constructor
  · intro ended
    exact ⟨_, le_past_run _ _, all_between_past_run _ _, ended⟩
  · rintro ⟨place, later, inside, ended⟩
    rw [past_run_eq later inside (refused_of_end refuses ended)]
    exact ended

theorem end_of_name_iff (refuses : Refuses text rest accepts) {offset stop : Nat} :
    (ends text (.sequence (oneOrMore (.one accepts)) rest) offset).head? = some stop ↔
      ∃ place, offset < place ∧ AllBetween text accepts offset place ∧
        (ends text rest place).head? = some stop := by
  rw [ends_name_sequence refuses]
  constructor
  · intro ended
    split at ended
    next first =>
        obtain ⟨point, here, accepted⟩ := (Option.any_eq_true _ _).1 first
        refine ⟨_, ?_, all_between_past_run _ _, ended⟩
        rw [past_run_of_accepted here accepted]
        exact le_past_run _ _
    next => cases ended
  · rintro ⟨place, later, inside, ended⟩
    rw [if_pos (inside offset (Nat.le_refl offset) later),
      past_run_eq (Nat.le_of_lt later) inside (refused_of_end refuses ended)]
    exact ended

end Names

section Choices

variable {rest : Pattern} {words : List Text} {word : Text} {offset : Nat}

/-- Words none of which begins another one. -/
def Apart (words : List Text) : Prop :=
  words.Pairwise fun one other => ¬one <+: other ∧ ¬other <+: one

instance (words : List Text) : Decidable (Apart words) :=
  inferInstanceAs (Decidable (List.Pairwise _ _))

theorem ends_any_word_sequence (words : List Text) (rest : Pattern) (offset : Nat) :
    ends text (.sequence (anyWord words) rest) offset =
      words.flatMap fun word =>
        if word <+: text.toList.drop offset then ends text rest (offset + word.length) else [] := by
  induction words with
  | nil => simp [anyWord, ends_condition_sequence]
  | cons word words ih =>
      cases words with
      | nil => simp [anyWord, ends_literal_sequence]
      | cons next words =>
          have split : ends text (.sequence (anyWord (word :: next :: words)) rest) offset =
              ends text (.sequence (literal word) rest) offset ++
                ends text (.sequence (anyWord (next :: words)) rest) offset :=
            ends_choice_sequence _ _ _ _
          rw [split, ih, ends_literal_sequence]
          simp only [List.flatMap_cons]

theorem eq_of_both_stand (apart : Apart words) {other : Text} (known : word ∈ words)
    (alsoKnown : other ∈ words) (stands : word <+: text.toList.drop offset)
    (alsoStands : other <+: text.toList.drop offset) : word = other := by
  by_contra different
  have symmetric : Std.Symm fun one other : Text => ¬one <+: other ∧ ¬other <+: one :=
    ⟨fun _ _ => And.symm⟩
  have neither := apart.forall known alsoKnown different
  rcases List.prefix_or_prefix_of_prefix stands alsoStands with begins | begins
  · exact neither.1 begins
  · exact neither.2 begins

theorem end_of_any_word_iff (apart : Apart words) {stop : Nat} :
    (ends text (.sequence (anyWord words) rest) offset).head? = some stop ↔
      ∃ word ∈ words, word <+: text.toList.drop offset ∧
        (ends text rest (offset + word.length)).head? = some stop := by
  rw [ends_any_word_sequence, List.head?_flatMap]
  constructor
  · intro found
    obtain ⟨word, known, ended⟩ := List.exists_of_findSome?_eq_some found
    split at ended
    next stands => exact ⟨word, known, stands, ended⟩
    next => cases ended
  · rintro ⟨word, known, stands, ended⟩
    obtain ⟨other, found⟩ : ∃ other, words.findSome? (fun word =>
        (if word <+: text.toList.drop offset then ends text rest (offset + word.length)
          else []).head?) = some other := by
      apply Option.isSome_iff_exists.1
      rw [List.findSome?_isSome_iff]
      exact ⟨word, known, by rw [if_pos stands, ended]; rfl⟩
    obtain ⟨first, firstKnown, firstEnded⟩ := List.exists_of_findSome?_eq_some found
    split at firstEnded
    next firstStands =>
        rw [eq_of_both_stand apart firstKnown known firstStands stands, ended] at firstEnded
        rw [found, firstEnded]
    next => cases firstEnded

end Choices

section Marks

structure FirstMark (text : Array CodePoint) (mark : CodePoint) (start place : Nat) : Prop where
  later : start ≤ place
  here : text[place]? = some mark
  first : ∀ between, start ≤ between → between < place → text[between]? ≠ some mark

/-- Behind the first mark from an offset on, or at the end of the text if there is none. -/
def PastMark (text : Array CodePoint) (mark : CodePoint) (start stop : Nat) : Prop :=
  (∃ place, FirstMark text mark start place ∧ stop = place + 1) ∨
    (∀ place, start ≤ place → text[place]? ≠ some mark) ∧ stop = text.size

/-- Where the next mark stands, or the text ends. -/
def nextMark (text : Array CodePoint) (mark : CodePoint) (offset : Nat) : Nat :=
  pastRun text (fun point => !([mark] : Text).contains point) offset

variable {mark : CodePoint} {start place : Nat}

theorem first_mark_unique {other : Nat} (one : FirstMark text mark start place)
    (two : FirstMark text mark start other) : place = other := by
  rcases Nat.lt_trichotomy place other with before | same | behind
  · exact absurd one.here (two.first place one.later before)
  · exact same
  · exact absurd two.here (one.first other two.later behind)

theorem not_mark_of_between {stop : Nat}
    (inside : AllBetween text (fun point => !([mark] : Text).contains point) start stop) :
    ∀ between, start ≤ between → between < stop → text[between]? ≠ some mark := by
  intro between after before here
  have accepted := inside between after before
  rw [here] at accepted
  simp at accepted

theorem first_mark_iff :
    FirstMark text mark start place ↔
      text[place]? = some mark ∧ place = nextMark text mark start := by
  constructor
  · intro marked
    refine ⟨marked.here, (past_run_eq marked.later ?_ ?_).symm⟩
    · intro between after before
      have other := marked.first between after before
      have inside := (Array.getElem?_eq_some_iff.1 marked.here).1
      have found : text[between]? = some text[between] := Array.getElem?_eq_getElem (by omega)
      rw [found] at other ⊢
      simpa using other
    · intro point here
      rw [marked.here] at here
      obtain rfl := Option.some.inj here
      simp
  · rintro ⟨here, rfl⟩
    exact ⟨le_past_run _ _, here, not_mark_of_between (all_between_past_run _ _)⟩

theorem exists_first_mark_iff :
    (∃ place, FirstMark text mark start place) ↔
      ∃ place, start ≤ place ∧ text[place]? = some mark := by
  constructor
  · rintro ⟨place, marked⟩
    exact ⟨place, marked.later, marked.here⟩
  · rintro ⟨place, later, here⟩
    induction place using Nat.strongRecOn with
    | ind place ih =>
        by_cases earlier : ∃ between, start ≤ between ∧ between < place ∧
            text[between]? = some mark
        · obtain ⟨between, after, before, sooner⟩ := earlier
          exact ih between before after sooner
        · exact ⟨place, later, here, fun between after before sooner =>
            earlier ⟨between, after, before, sooner⟩⟩

theorem past_mark_iff (inside : start ≤ text.size) {stop : Nat} :
    PastMark text mark start stop ↔
      stop = if text[nextMark text mark start]? = some mark then nextMark text mark start + 1
        else nextMark text mark start := by
  have refused : ∀ point, text[nextMark text mark start]? = some point → point = mark := by
    intro point here
    have refused := past_run_refused _ start point here
    simpa using refused
  by_cases found : text[nextMark text mark start]? = some mark
  · have marked : FirstMark text mark start (nextMark text mark start) :=
      first_mark_iff.2 ⟨found, rfl⟩
    rw [if_pos found]
    constructor
    · rintro (⟨place, other, rfl⟩ | ⟨none, -⟩)
      · rw [first_mark_unique marked other]
      · exact absurd found (none _ marked.later)
    · rintro rfl
      exact Or.inl ⟨_, marked, rfl⟩
  · have absent : text[nextMark text mark start]? = none := by
      rw [Option.eq_none_iff_forall_ne_some]
      intro point here
      obtain rfl := refused point here
      exact found here
    have outside := Array.getElem?_eq_none_iff.1 absent
    have nothing : ∀ place, start ≤ place → text[place]? ≠ some mark := by
      intro place after here
      obtain ⟨first, marked⟩ := exists_first_mark_iff.2 ⟨place, after, here⟩
      obtain ⟨here, rfl⟩ := first_mark_iff.1 marked
      exact found here
    have upTo : nextMark text mark start ≤ text.size := past_run_le_size _ inside
    rw [if_neg found]
    constructor
    · rintro (⟨place, other, rfl⟩ | ⟨-, rfl⟩)
      · exact absurd other.here (nothing place other.later)
      · omega
    · rintro rfl
      exact Or.inr ⟨nothing, by omega⟩

theorem end_of_mark_iff {rest : Pattern} {stop : Nat} :
    (ends text (.sequence (.repeated (noneOf [mark])) (.sequence (literal [mark]) rest))
        start).head? = some stop ↔
      ∃ place, FirstMark text mark start place ∧ (ends text rest (place + 1)).head? = some stop := by
  have refuses : Refuses text (.sequence (literal [mark]) rest)
      fun point => !([mark] : Text).contains point :=
    refuses_literal (by simp) [] rest
  rw [noneOf, ends_run_sequence refuses, ends_point_sequence]
  change (if text[nextMark text mark start]? = some mark then
    ends text rest (nextMark text mark start + 1) else []).head? = _ ↔ _
  constructor
  · intro ended
    split at ended
    next found => exact ⟨_, first_mark_iff.2 ⟨found, rfl⟩, ended⟩
    next => cases ended
  · rintro ⟨place, marked, ended⟩
    obtain ⟨here, rfl⟩ := first_mark_iff.1 marked
    rw [if_pos here]
    exact ended

end Marks

end Pattern

end Dimming
