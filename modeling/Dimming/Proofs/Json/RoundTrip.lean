import Dimming.Proofs.Json.Number
import Dimming.Proofs.Json.Soundness

/-!
# Values read back

A sound value that was written is read back as it was, in whatever layout it was written. Each step
of the reader is a lemma of its own: an item and what follows it, a member and what follows it, and
the brackets around them.
-/

set_option autoImplicit false

namespace Dimming

namespace Json

/-- What a value or a member may begin with: no blank, no closing bracket and no byte order
mark. -/
def Opens (text : Text) : Prop :=
  ∃ point rest, text = point :: rest ∧ isGap point = false ∧ point ≠ ']' ∧ point ≠ '\x7d' ∧
    point ≠ '\ufeff'

section Gaps

variable {blank text : Text} {point : CodePoint}

theorem skip_blank (blanks : blank.all isGap = true) (text : Text) :
    skipGaps (blank ++ text) = skipGaps text := by
  unfold skipGaps
  rw [List.dropWhile_append_of_pos (fun point inside => List.all_eq_true.1 blanks point inside)]

theorem skip_gaps_visible (visible : isGap point = false) (rest : Text) :
    skipGaps (point :: rest) = point :: rest := by
  unfold skipGaps
  rw [List.dropWhile_cons_of_neg]
  rw [visible]
  exact Bool.false_ne_true

theorem skip_gaps_opens (opens : Opens text) : skipGaps text = text := by
  obtain ⟨point, rest, rfl, visible, -⟩ := opens
  exact skip_gaps_visible visible rest

theorem skip_to (blanks : blank.all isGap = true) (opens : Opens text) :
    skipGaps (blank ++ text) = text := by
  rw [skip_blank blanks, skip_gaps_opens opens]

theorem skip_to_mark (blanks : blank.all isGap = true) (visible : isGap point = false)
    (rest : Text) : skipGaps (blank ++ (point :: rest)) = point :: rest := by
  rw [skip_blank blanks, skip_gaps_visible visible]

end Gaps

section Steps

variable {limit : Option Nat} {fuel : Nat} {blank text behind rest : Text}

theorem after_opens (opens : Opens text) :
    after? "]" text = none ∧ after? "\x7d" text = none := by
  obtain ⟨point, rest, rfl, -, bracket, brace, -⟩ := opens
  exact ⟨if_neg bracket, if_neg brace⟩

theorem unmarked_of_opens (opens : Opens text) : after? "\ufeff" text = none := by
  obtain ⟨point, rest, rfl, -, -, -, other⟩ := opens
  exact if_neg other

theorem read_array {items : List Json} (blanks : blank.all isGap = true) (opens : Opens text)
    (read : readItems limit fuel text = .ok (items, rest)) :
    readValue limit (fuel + 1) (CodePoint.ofChar '[' :: (blank ++ text)) =
      .ok (.array items, rest) := by
  rw [readValue, if_neg (by decide), if_pos rfl, skip_to blanks opens, (after_opens opens).1]
  dsimp only
  rw [read]
  rfl

theorem read_object {members : List (Text × Json)} (blanks : blank.all isGap = true)
    (opens : Opens text) (distinct : (members.map Prod.fst).Nodup)
    (read : readMembers limit fuel text = .ok (members, rest)) :
    readValue limit (fuel + 1) (CodePoint.ofChar '\x7b' :: (blank ++ text)) =
      .ok (.object members, rest) := by
  rw [readValue, if_neg (by decide), if_neg (by decide), if_pos rfl, skip_to blanks opens,
    (after_opens opens).2]
  dsimp only
  rw [read]
  exact congrArg (fun members => Except.ok (Json.object members, rest))
    (Mapping.of_entries_of_nodup distinct)

theorem at_comma (behind : Text) :
    skipGaps (CodePoint.ofChar ',' :: behind) = CodePoint.ofChar ',' :: behind ∧
      after? "]" (CodePoint.ofChar ',' :: behind) = none ∧
      after? "\x7d" (CodePoint.ofChar ',' :: behind) = none ∧
      after? "," (CodePoint.ofChar ',' :: behind) = some behind :=
  ⟨skip_gaps_visible (by decide) behind, if_neg (by decide), if_neg (by decide), rfl⟩

theorem read_last_item {item : Json} (blanks : blank.all isGap = true)
    (read : readValue limit fuel text = .ok (item, blank ++ (CodePoint.ofChar ']' :: rest))) :
    readItems limit (fuel + 1) text = .ok ([item], rest) := by
  have closed := skip_to_mark blanks (by decide : isGap (CodePoint.ofChar ']') = false) rest
  rw [readItems, read, ok_bind]
  dsimp only
  rw [closed]
  rfl

theorem read_more_items {item : Json} {items : List Json} (blanks : blank.all isGap = true)
    (opens : Opens behind)
    (read : readValue limit fuel text = .ok (item, CodePoint.ofChar ',' :: (blank ++ behind)))
    (more : readItems limit fuel behind = .ok (items, rest)) :
    readItems limit (fuel + 1) text = .ok (item :: items, rest) := by
  obtain ⟨comma, unclosed, -, next⟩ := at_comma (blank ++ behind)
  rw [readItems, read, ok_bind]
  dsimp only
  rw [comma, unclosed, next]
  dsimp only
  rw [skip_to blanks opens, more, ok_bind]
  rfl

theorem read_name {key : Text} (unpaired : key.Unpaired) (skipped : skipGaps (" " ++ text) = text) :
    readMembers limit (fuel + 1) (writeString key ++ (": " ++ text)) = (do
      let (value, left) ← readValue limit fuel text
      match after? "\x7d" (skipGaps left), after? "," (skipGaps left) with
      | some rest, _ => return ([(key, value)], rest)
      | none, some rest => do
          let (members, rest) ← readMembers limit fuel (skipGaps rest)
          return ((key, value) :: members, rest)
      | none, none => failAt .noComma (skipGaps left)) := by
  have quoted : (after? "\"" (writeString key ++ (": " ++ text))).isNone = false := rfl
  have colon : skipGaps (": " ++ text) = ": " ++ text := skip_gaps_visible (by decide) _
  have next : after? ":" (": " ++ text) = some (Text.ofString " " ++ text) := rfl
  rw [readMembers, quoted, if_neg Bool.false_ne_true, read_string_written unpaired, ok_bind]
  dsimp only
  rw [colon, next]
  dsimp only
  generalize skipGaps (Text.ofString " " ++ text) = left at skipped ⊢
  subst skipped
  rfl

theorem read_member {key : Text} {value : Json} {left : Text} (unpaired : key.Unpaired)
    (opens : Opens text) (read : readValue limit fuel text = .ok (value, left)) :
    readMembers limit (fuel + 1) (writeString key ++ (": " ++ text)) =
      match after? "\x7d" (skipGaps left), after? "," (skipGaps left) with
      | some rest, _ => .ok ([(key, value)], rest)
      | none, some rest => do
          let (members, rest) ← readMembers limit fuel (skipGaps rest)
          return ((key, value) :: members, rest)
      | none, none => failAt .noComma (skipGaps left) := by
  rw [read_name unpaired (skip_to (by decide) opens), read, ok_bind]
  rfl

theorem read_last_member {key : Text} {value : Json} (unpaired : key.Unpaired)
    (blanks : blank.all isGap = true) (opens : Opens text)
    (read : readValue limit fuel text = .ok (value, blank ++ (CodePoint.ofChar '\x7d' :: rest))) :
    readMembers limit (fuel + 1) (writeString key ++ (": " ++ text)) = .ok ([(key, value)], rest) := by
  have closed := skip_to_mark blanks (by decide : isGap (CodePoint.ofChar '\x7d') = false) rest
  rw [read_member unpaired opens read, closed]
  rfl

theorem read_more_members {key : Text} {value : Json} {members : List (Text × Json)}
    (unpaired : key.Unpaired) (blanks : blank.all isGap = true) (opens : Opens text)
    (opensBehind : Opens behind)
    (read : readValue limit fuel text = .ok (value, CodePoint.ofChar ',' :: (blank ++ behind)))
    (more : readMembers limit fuel behind = .ok (members, rest)) :
    readMembers limit (fuel + 1) (writeString key ++ (": " ++ text)) =
      .ok ((key, value) :: members, rest) := by
  obtain ⟨comma, -, unclosed, next⟩ := at_comma (blank ++ behind)
  rw [read_member unpaired opens read, comma, unclosed, next]
  dsimp only
  rw [skip_to blanks opensBehind, more, ok_bind]
  rfl

theorem read_written_string (unpaired : text.Unpaired) (fuel : Nat) (rest : Text) :
    readValue limit (fuel + 1) (writeString text ++ rest) = .ok (.string text, rest) := by
  have read := read_string_written unpaired rest
  change readValue limit (fuel + 1) (CodePoint.ofChar '"' :: _) = _
  rw [readValue, if_pos rfl]
  change (readString (writeString text ++ rest) >>= _) = _
  rw [read, ok_bind]
  rfl

end Steps

section Beginnings

variable {text : Text}

theorem Opens.append (opens : Opens text) (rest : Text) : Opens (text ++ rest) := by
  obtain ⟨point, behind, rfl, begins⟩ := opens
  exact ⟨point, behind ++ rest, rfl, begins⟩

theorem opens_number (number : Number) : Opens (writeNumber number) := by
  obtain ⟨point, rest, same, begins⟩ := write_number_begins number
  refine ⟨point, rest, same, ?_⟩
  have distinct (other : CodePoint) (odd : other.isAsciiDigit = false ∧ other.isAsciiUpper = false ∧
      other ≠ '-') : point ≠ other := by
    rintro rfl
    rw [odd.1, odd.2.1] at begins
    simp [odd.2.2] at begins
  refine ⟨?_, distinct _ (by decide), distinct _ (by decide), distinct _ (by decide)⟩
  unfold isGap
  simp only [Bool.or_eq_false_iff, decide_eq_false_iff_not]
  exact ⟨⟨⟨distinct _ (by decide), distinct _ (by decide)⟩, distinct _ (by decide)⟩,
    distinct _ (by decide)⟩

theorem opens_string (text : Text) : Opens (writeString text) :=
  ⟨CodePoint.ofChar '"', _, rfl, by decide⟩

theorem opens_written (layout : Layout) (level : Nat) (value : Json) :
    Opens (writeIn layout level value) := by
  match value with
  | .null => exact ⟨CodePoint.ofChar 'n', _, rfl, by decide⟩
  | .bool true => exact ⟨CodePoint.ofChar 't', _, rfl, by decide⟩
  | .bool false => exact ⟨CodePoint.ofChar 'f', _, rfl, by decide⟩
  | .number amount =>
      rw [writeIn]
      exact opens_number amount
  | .string text =>
      rw [writeIn]
      exact opens_string text
  | .array [] =>
      rw [writeIn]
      exact ⟨CodePoint.ofChar '[', _, rfl, by decide⟩
  | .array (item :: items) =>
      rw [writeIn]
      exact ⟨CodePoint.ofChar '[', _, rfl, by decide⟩
  | .object [] =>
      rw [writeIn]
      exact ⟨CodePoint.ofChar '\x7b', _, rfl, by decide⟩
  | .object ((key, member) :: members) =>
      rw [writeIn]
      exact ⟨CodePoint.ofChar '\x7b', _, rfl, by decide⟩

theorem delimited_of_blank {blank rest : Text} {mark : CodePoint} (blanks : blank.all isGap = true)
    (stops : goesOn mark = false) : Delimited (blank ++ (mark :: rest)) := by
  intro point first
  cases blank with
  | nil =>
      obtain rfl := Option.some.inj first
      exact stops
  | cons gap blank =>
      obtain rfl := Option.some.inj first
      have isBlank := (Bool.and_eq_true_iff.1 blanks).1
      unfold isGap at isBlank
      simp only [Bool.or_eq_true, decide_eq_true_eq] at isBlank
      rcases isBlank with ((rfl | rfl) | rfl) | rfl <;> decide

theorem delimited_at_comma (behind : Text) : Delimited (CodePoint.ofChar ',' :: behind) := by
  have nothing : ([] : Text).all isGap = true := rfl
  exact delimited_of_blank nothing (by decide)

theorem delimited_at_end : Delimited [] := fun _ absent => nomatch absent

end Beginnings

section Layouts

variable (layout : Layout) (level : Nat)

theorem write_array_append (item : Json) (items : List Json) (rest : Text) :
    writeIn layout level (.array (item :: items)) ++ rest =
      CodePoint.ofChar '[' :: (layout.edge (level + 1) ++ (writeIn layout (level + 1) item ++
        (writeItems layout (level + 1) items ++
          (layout.edge level ++ (CodePoint.ofChar ']' :: rest))))) := by
  rw [writeIn]
  simp only [List.append_assoc]
  rfl

theorem write_items_append (item : Json) (items : List Json) (rest : Text) :
    writeItems layout level (item :: items) ++ rest =
      CodePoint.ofChar ',' :: (layout.gap level ++
        (writeIn layout level item ++ (writeItems layout level items ++ rest))) := by
  rw [writeItems]
  simp only [List.append_assoc]
  rfl

theorem write_object_append (key : Text) (value : Json) (members : List (Text × Json))
    (rest : Text) :
    writeIn layout level (.object ((key, value) :: members)) ++ rest =
      CodePoint.ofChar '\x7b' :: (layout.edge (level + 1) ++ (writeString key ++ (": " ++
        (writeIn layout (level + 1) value ++ (writeMembers layout (level + 1) members ++
          (layout.edge level ++ (CodePoint.ofChar '\x7d' :: rest))))))) := by
  rw [writeIn]
  simp only [List.append_assoc]
  rfl

theorem write_members_append (key : Text) (value : Json) (members : List (Text × Json))
    (rest : Text) :
    writeMembers layout level ((key, value) :: members) ++ rest =
      CodePoint.ofChar ',' :: (layout.gap level ++ (writeString key ++ (": " ++
        (writeIn layout level value ++ (writeMembers layout level members ++ rest))))) := by
  rw [writeMembers]
  simp only [List.append_assoc]
  rfl

end Layouts

section Values

variable {limit : Option Nat}

mutual

/-- Whatever is written is read back, if it is sound and its whole numbers are not too long. -/
theorem read_written (layout : Layout) (level : Nat) (value : Json) (sound : value.isSound = true)
    (fits : value.fits limit = true) {rest : Text} (delimited : Delimited rest) (fuel : Nat)
    (enough : 2 * (writeIn layout level value).length ≤ fuel) :
    readValue limit fuel (writeIn layout level value ++ rest) = .ok (value, rest) := by
  -- The induction is on the fuel. A bracket costs two steps, one for the value and one for its
  -- first item, so twice the length of the text is enough.
  match fuel, value with
  | 0, value =>
      obtain ⟨point, behind, same, -⟩ := opens_written layout level value
      rw [same, List.length_cons] at enough
      omega
  | fuel + 1, .null => rfl
  | fuel + 1, .bool true => rfl
  | fuel + 1, .bool false => rfl
  | fuel + 1, .number amount =>
      rw [writeIn]
      exact read_written_number fits delimited fuel
  | fuel + 1, .string text =>
      rw [writeIn]
      exact read_written_string (of_decide_eq_true sound) fuel rest
  | fuel + 1, .array [] => rfl
  | fuel + 1, .array (item :: items) =>
      have length := congrArg List.length (write_array_append layout level item items [])
      simp only [List.length_append, List.length_cons, List.length_nil] at length
      rw [write_array_append]
      refine read_array (layout.edgeBlank _) ((opens_written _ _ item).append _) ?_
      exact read_written_items layout (level + 1) item items sound fits (layout.edgeBlank level) rest fuel
        (by omega)
  | fuel + 1, .object [] => rfl
  | fuel + 1, .object ((key, member) :: members) =>
      have length := congrArg List.length (write_object_append layout level key member members [])
      simp only [List.length_append, List.length_cons, List.length_nil] at length
      obtain ⟨distinct, membersSound⟩ := Bool.and_eq_true_iff.1 sound
      rw [write_object_append]
      refine read_object (layout.edgeBlank _) ((opens_string key).append _)
        (of_decide_eq_true distinct) ?_
      exact read_written_members layout (level + 1) key member members membersSound fits
        (layout.edgeBlank level) rest fuel (by omega)

theorem read_written_items (layout : Layout) (level : Nat) (item : Json) (items : List Json)
    (sound : itemsSound (item :: items) = true) (fits : itemsFit limit (item :: items) = true)
    {blank : Text} (blanks : blank.all isGap = true) (rest : Text) (fuel : Nat)
    (enough : 2 * ((writeIn layout level item).length + (writeItems layout level items).length) <
      fuel) :
    readItems limit fuel (writeIn layout level item ++
        (writeItems layout level items ++ (blank ++ (CodePoint.ofChar ']' :: rest)))) =
      .ok (item :: items, rest) := by
  obtain ⟨itemSound, itemsSound⟩ := Bool.and_eq_true_iff.1 sound
  obtain ⟨itemFits, itemsFit⟩ := Bool.and_eq_true_iff.1 fits
  match fuel, items with
  | 0, _ => omega
  | fuel + 1, [] =>
      have delimited : Delimited (blank ++ (CodePoint.ofChar ']' :: rest)) :=
        delimited_of_blank blanks (by decide)
      exact read_last_item blanks
        (read_written layout level item itemSound itemFits delimited fuel (by omega))
  | fuel + 1, next :: items =>
      have length := congrArg List.length (write_items_append layout level next items [])
      simp only [List.length_append, List.length_cons, List.length_nil] at length
      rw [write_items_append]
      refine read_more_items (layout.gapBlank level) ((opens_written _ _ next).append _)
        (read_written layout level item itemSound itemFits (delimited_at_comma _) fuel (by omega))
        ?_
      exact read_written_items layout level next items itemsSound itemsFit blanks rest fuel (by omega)

theorem read_written_members (layout : Layout) (level : Nat) (key : Text) (value : Json)
    (members : List (Text × Json)) (sound : membersSound ((key, value) :: members) = true)
    (fits : membersFit limit ((key, value) :: members) = true) {blank : Text}
    (blanks : blank.all isGap = true) (rest : Text) (fuel : Nat)
    (enough : 2 * ((writeIn layout level value).length +
      (writeMembers layout level members).length) < fuel) :
    readMembers limit fuel (writeString key ++ (": " ++ (writeIn layout level value ++
        (writeMembers layout level members ++ (blank ++ (CodePoint.ofChar '\x7d' :: rest)))))) =
      .ok ((key, value) :: members, rest) := by
  obtain ⟨entrySound, membersSound⟩ := Bool.and_eq_true_iff.1 sound
  obtain ⟨unpaired, valueSound⟩ := Bool.and_eq_true_iff.1 entrySound
  have keyUnpaired : key.Unpaired := of_decide_eq_true unpaired
  obtain ⟨valueFits, membersFit⟩ := Bool.and_eq_true_iff.1 fits
  match fuel, members with
  | 0, _ => omega
  | fuel + 1, [] =>
      have delimited : Delimited (blank ++ (CodePoint.ofChar '\x7d' :: rest)) :=
        delimited_of_blank blanks (by decide)
      exact read_last_member keyUnpaired blanks ((opens_written _ _ value).append _)
        (read_written layout level value valueSound valueFits delimited fuel (by omega))
  | fuel + 1, (next, other) :: members =>
      have length := congrArg List.length (write_members_append layout level next other members [])
      simp only [List.length_append, List.length_cons, List.length_nil] at length
      rw [write_members_append]
      refine read_more_members keyUnpaired (layout.gapBlank level)
        ((opens_written _ _ value).append _) ((opens_string next).append _)
        (read_written layout level value valueSound valueFits (delimited_at_comma _) fuel
          (by omega)) ?_
      exact read_written_members layout level next other members membersSound membersFit blanks rest fuel
        (by omega)

end

theorem read_of_written (layout : Layout) (level : Nat) {value : Json}
    (sound : value.isSound = true) (fits : value.fits limit = true) :
    read limit (writeIn layout level value) = .ok value := by
  have opens := opens_written layout level value
  have whole := read_written layout level value sound fits delimited_at_end
    (2 * (writeIn layout level value).length + 2) (by omega)
  rw [List.append_nil] at whole
  unfold read
  rw [unmarked_of_opens opens, skip_gaps_opens opens, if_neg (by decide), whole]
  rfl

end Values

end Json

end Dimming
