import Dimming.Proofs.Json.RoundTrip

/-!
# Values written by half

A value with a whole number that is too long is written up to somewhere before that number. What is
there then is a beginning of the value's text. Read again, it ends where something has to follow: an
item, a member, a value or what stands behind one.
-/

set_option autoImplicit false

namespace Dimming

namespace Json

section Beginning

variable {limit : Option Nat} (layout : Layout)

mutual

/-- What is written by half would have gone on to be the whole. -/
theorem part_begins (level : Nat) (lead : Text) (value : Json) :
    writePart limit layout level lead value <+: lead ++ writeIn layout level value := by
  match value with
  | .null | .bool _ | .number _ | .string _ => exact List.nil_prefix
  | .array [] => exact (List.prefix_append_right_inj lead).2 List.nil_prefix
  | .array (item :: items) =>
      have begins := items_part_begins (level + 1) ("[" ++ layout.edge (level + 1)) item items
      rw [writePart, writeIn]
      refine (List.prefix_append_right_inj lead).2 (begins.trans ?_)
      simp only [List.append_assoc, List.prefix_append_right_inj, List.prefix_append]
  | .object [] => exact (List.prefix_append_right_inj lead).2 List.nil_prefix
  | .object ((key, member) :: members) =>
      have begins := members_part_begins (level + 1) ("\x7b" ++ layout.edge (level + 1)) key member
        members
      rw [writePart, writeIn]
      refine (List.prefix_append_right_inj lead).2 (begins.trans ?_)
      simp only [List.append_assoc, List.prefix_append_right_inj, List.prefix_append]
termination_by sizeOf value

theorem items_part_begins (level : Nat) (lead : Text) (item : Json) (items : List Json) :
    writeItemsPart limit layout level lead (item :: items) <+:
      lead ++ (writeIn layout level item ++ writeItems layout level items) := by
  rw [writeItemsPart]
  split
  · rw [List.append_assoc]
    refine (List.prefix_append_right_inj lead).2 ((List.prefix_append_right_inj _).2 ?_)
    match items with
    | [] => exact List.nil_prefix
    | next :: items =>
        have begins := items_part_begins level ("," ++ layout.gap level) next items
        rw [writeItems, List.append_assoc]
        exact begins
  · rw [← List.append_assoc]
    exact (part_begins level lead item).trans (List.prefix_append _ _)
termination_by sizeOf (item :: items)

theorem members_part_begins (level : Nat) (lead key : Text) (value : Json)
    (members : List (Text × Json)) :
    writeMembersPart limit layout level lead ((key, value) :: members) <+:
      lead ++ (writeString key ++ (": " ++
        (writeIn layout level value ++ writeMembers layout level members))) := by
  rw [writeMembersPart]
  simp only [List.append_assoc, List.prefix_append_right_inj]
  split
  · refine (List.prefix_append_right_inj _).2 ?_
    match members with
    | [] => exact List.nil_prefix
    | (next, other) :: members =>
        have begins := members_part_begins level ("," ++ layout.gap level) next other members
        rw [writeMembers]
        simp only [List.append_assoc] at begins ⊢
        exact begins
  · exact (part_begins level [] value).trans (List.prefix_append _ _)
termination_by sizeOf ((key, value) :: members)

end

end Beginning

/-- A text that breaks off, from wherever it is read: there it is at its end, or a value or a member
begins, and reading it fails. The fuel is as much as a reader is given. -/
structure IsCut {Value : Type} (read : Nat → Text → Except ReadFault Value) (slack : Nat)
    (text : Text) : Prop where
  opens : text = [] ∨ Opens text
  fails : ∀ fuel, 2 * text.length + slack < fuel → ∃ fault, read fuel text = .error fault

section Steps

variable {limit : Option Nat} {blank body : Text}

/-- Where reading comes to a text that breaks off, it fails with that. Each step takes one unit of
fuel, and the text gets shorter on the way or the rest of the steps is fewer. -/
theorem IsCut.behind {Value Other : Type} {inner : Nat → Text → Except ReadFault Other}
    {outer : Nat → Text → Except ReadFault Value} {slack room : Nat} {text : Text}
    (cut : IsCut inner slack body) (opens : text = [] ∨ Opens text)
    (shorter : 2 * body.length + slack < 2 * text.length + room)
    (leads : ∀ fuel fault, 2 * text.length + room ≤ fuel → inner fuel body = .error fault →
      outer (fuel + 1) text = .error fault) :
    IsCut outer room text where
  opens := opens
  fails := by
    intro fuel enough
    match fuel with
    | fuel + 1 =>
        obtain ⟨fault, failed⟩ := cut.fails fuel (by omega)
        exact ⟨fault, leads fuel fault (by omega) failed⟩

theorem skip_to_cut (blanks : blank.all isGap = true) (opens : body = [] ∨ Opens body) :
    skipGaps (blank ++ body) = body := by
  rcases opens with rfl | opens
  · exact skip_blank blanks []
  · exact skip_to blanks opens

theorem after_cut (opens : body = [] ∨ Opens body) :
    after? "]" body = none ∧ after? "\x7d" body = none := by
  rcases opens with rfl | opens
  · exact ⟨rfl, rfl⟩
  · exact after_opens opens

theorem nothing_cut : IsCut (readValue limit) 0 [] where
  opens := Or.inl rfl
  fails := by
    intro fuel enough
    match fuel with
    | fuel + 1 => exact ⟨_, rfl⟩

theorem array_cut (blanks : blank.all isGap = true) (cut : IsCut (readItems limit) 1 body) :
    IsCut (readValue limit) 0 (CodePoint.ofChar '[' :: (blank ++ body)) := by
  apply cut.behind (Or.inr ⟨_, _, rfl, by decide⟩)
  · simp only [List.length_cons, List.length_append]
    omega
  · intro fuel fault _ failed
    rw [readValue, if_neg (by decide), if_pos rfl, skip_to_cut blanks cut.opens,
      (after_cut cut.opens).1]
    dsimp only
    rw [failed]
    rfl

theorem object_cut (blanks : blank.all isGap = true) (cut : IsCut (readMembers limit) 1 body) :
    IsCut (readValue limit) 0 (CodePoint.ofChar '\x7b' :: (blank ++ body)) := by
  apply cut.behind (Or.inr ⟨_, _, rfl, by decide⟩)
  · simp only [List.length_cons, List.length_append]
    omega
  · intro fuel fault _ failed
    rw [readValue, if_neg (by decide), if_neg (by decide), if_pos rfl,
      skip_to_cut blanks cut.opens, (after_cut cut.opens).2]
    dsimp only
    rw [failed]
    rfl

theorem item_cut (cut : IsCut (readValue limit) 0 body) : IsCut (readItems limit) 1 body := by
  apply cut.behind cut.opens (Nat.lt_succ_self _)
  intro fuel fault _ failed
  rw [readItems, failed]
  rfl

theorem member_cut {key : Text} (unpaired : key.Unpaired) (cut : IsCut (readValue limit) 0 body) :
    IsCut (readMembers limit) 1 (writeString key ++ (": " ++ body)) := by
  apply cut.behind (Or.inr ((opens_string key).append _))
  · simp only [List.length_append]
    omega
  · intro fuel fault _ failed
    rw [read_name unpaired (skip_to_cut (by decide) cut.opens), failed]
    rfl

variable {layout : Layout} {level : Nat} {value : Json}
  (sound : value.isSound = true) (fits : value.fits limit = true)

include sound fits

theorem last_item_cut : IsCut (readItems limit) 1 (writeIn layout level value) where
  opens := Or.inr (opens_written layout level value)
  fails := by
    intro fuel enough
    match fuel with
    | fuel + 1 =>
        have read := read_written layout level value sound fits delimited_at_end fuel (by omega)
        rw [List.append_nil] at read
        refine ⟨.flawed .noComma 0, ?_⟩
        rw [readItems, read, ok_bind]
        rfl

theorem further_item_cut (blanks : blank.all isGap = true) (cut : IsCut (readItems limit) 1 body) :
    IsCut (readItems limit) 1
      (writeIn layout level value ++ (CodePoint.ofChar ',' :: (blank ++ body))) := by
  apply cut.behind (Or.inr ((opens_written layout level value).append _))
  · simp only [List.length_append, List.length_cons]
    omega
  · intro fuel fault enough failed
    rw [List.length_append] at enough
    have read := read_written layout level value sound fits (delimited_at_comma (blank ++ body))
      fuel (by omega)
    obtain ⟨comma, unclosed, -, next⟩ := at_comma (blank ++ body)
    rw [readItems, read, ok_bind]
    dsimp only
    rw [comma, unclosed, next]
    dsimp only
    rw [skip_to_cut blanks cut.opens, failed]
    rfl

theorem further_member_cut {key : Text} (unpaired : key.Unpaired) (blanks : blank.all isGap = true)
    (cut : IsCut (readMembers limit) 1 body) :
    IsCut (readMembers limit) 1 (writeString key ++ (": " ++
      (writeIn layout level value ++ (CodePoint.ofChar ',' :: (blank ++ body))))) := by
  apply cut.behind (Or.inr ((opens_string key).append _))
  · simp only [List.length_append, List.length_cons]
    omega
  · intro fuel fault enough failed
    simp only [List.length_append] at enough
    have read := read_written layout level value sound fits (delimited_at_comma (blank ++ body))
      fuel (by omega)
    obtain ⟨comma, -, unclosed, next⟩ := at_comma (blank ++ body)
    rw [read_member unpaired ((opens_written layout level value).append _) read,
      comma, unclosed, next]
    dsimp only
    rw [skip_to_cut blanks cut.opens, failed]
    rfl

end Steps

section Reading

variable {limit : Option Nat} (layout : Layout)

mutual

theorem part_cut (level : Nat) (lead : Text) (value : Json) (sound : value.isSound = true)
    (unfit : value.fits limit = false) :
    writePart limit layout level lead value = [] ∨ ∃ body,
      writePart limit layout level lead value = lead ++ body ∧ IsCut (readValue limit) 0 body := by
  match value with
  | .null | .bool _ | .string _ => cases unfit
  | .number _ => exact Or.inl rfl
  | .array items =>
      have cut := items_part_cut (level + 1) ("[" ++ layout.edge (level + 1)) items sound unfit
      rw [writePart]
      rcases cut with nothing | ⟨body, same, cut⟩
      · rw [nothing]
        exact Or.inr ⟨[], rfl, nothing_cut⟩
      · rw [same]
        exact Or.inr ⟨_, rfl, array_cut (layout.edgeBlank _) cut⟩
  | .object members =>
      obtain ⟨-, membersSound⟩ := Bool.and_eq_true_iff.1 sound
      have cut := members_part_cut (level + 1) ("\x7b" ++ layout.edge (level + 1)) members
        membersSound unfit
      obtain ⟨body, same, cut⟩ := cut
      rw [writePart, same]
      exact Or.inr ⟨_, rfl, object_cut (layout.edgeBlank _) cut⟩
termination_by sizeOf value

theorem items_part_cut (level : Nat) (lead : Text) (items : List Json)
    (sound : itemsSound items = true) (unfit : itemsFit limit items = false) :
    writeItemsPart limit layout level lead items = [] ∨ ∃ body,
      writeItemsPart limit layout level lead items = lead ++ body ∧
        IsCut (readItems limit) 1 body := by
  match items with
  | [] => cases unfit
  | item :: items =>
      obtain ⟨itemSound, itemsSound⟩ := Bool.and_eq_true_iff.1 sound
      rw [writeItemsPart]
      cases fits : item.fits limit with
      | true =>
          rw [itemsFit, fits, Bool.true_and] at unfit
          rw [if_pos rfl, List.append_assoc]
          rcases items_part_cut level ("," ++ layout.gap level) items itemsSound unfit with
            nothing | ⟨body, same, cut⟩
          · rw [nothing, List.append_nil]
            exact Or.inr ⟨_, rfl, last_item_cut itemSound fits⟩
          · rw [same]
            exact Or.inr ⟨_, rfl, further_item_cut itemSound fits (layout.gapBlank level) cut⟩
      | false =>
          rw [if_neg Bool.false_ne_true]
          rcases part_cut level lead item itemSound fits with nothing | ⟨body, same, cut⟩
          · exact Or.inl nothing
          · exact Or.inr ⟨body, same, item_cut cut⟩
termination_by sizeOf items

theorem members_part_cut (level : Nat) (lead : Text) (members : List (Text × Json))
    (sound : membersSound members = true) (unfit : membersFit limit members = false) :
    ∃ body, writeMembersPart limit layout level lead members = lead ++ body ∧
      IsCut (readMembers limit) 1 body := by
  match members with
  | [] => cases unfit
  | (key, value) :: members =>
      obtain ⟨entrySound, membersSound⟩ := Bool.and_eq_true_iff.1 sound
      obtain ⟨unpaired, valueSound⟩ := Bool.and_eq_true_iff.1 entrySound
      have keyUnpaired : key.Unpaired := of_decide_eq_true unpaired
      rw [writeMembersPart, List.append_assoc, List.append_assoc]
      refine ⟨_, rfl, ?_⟩
      cases fits : value.fits limit with
      | true =>
          rw [membersFit, fits, Bool.true_and] at unfit
          obtain ⟨body, same, cut⟩ := members_part_cut level ("," ++ layout.gap level) members
            membersSound unfit
          rw [if_pos rfl, same]
          exact further_member_cut valueSound fits keyUnpaired (layout.gapBlank level) cut
      | false =>
          rw [if_neg Bool.false_ne_true]
          rcases part_cut level [] value valueSound fits with nothing | ⟨body, same, cut⟩
          · rw [nothing]
            exact member_cut keyUnpaired nothing_cut
          · rw [same]
            exact member_cut keyUnpaired cut
termination_by sizeOf members

end

/-- What was written by half is not read as any value. -/
theorem part_unread (level : Nat) {value : Json} (sound : value.isSound = true)
    (unfit : value.fits limit = false) :
    ∃ fault, read limit (writePart limit layout level [] value) = .error fault := by
  have cut : IsCut (readValue limit) 0 (writePart limit layout level [] value) := by
    rcases part_cut layout level [] value sound unfit with nothing | ⟨body, same, cut⟩
    · rw [nothing]
      exact nothing_cut
    · rw [same]
      exact cut
  have unmarked : after? "\ufeff" (writePart limit layout level [] value) = none := by
    rcases cut.opens with nothing | opens
    · rw [nothing]
      rfl
    · exact unmarked_of_opens opens
  obtain ⟨fault, failed⟩ := cut.fails _ (Nat.lt_add_of_pos_right (by decide : 0 < 2))
  refine ⟨fault, ?_⟩
  have unblanked : skipGaps ([] ++ writePart limit layout level [] value) = _ :=
    skip_to_cut rfl cut.opens
  rw [List.nil_append] at unblanked
  unfold read
  rw [unmarked, unblanked, if_neg (by decide), failed]
  rfl

end Reading

end Json

end Dimming
