import Dimming.Proofs.Fault
import Dimming.Proofs.Json.Escape
import Dimming.Proofs.Mapping

/-!
# Sound values

Two things are lost when a value is written: a pair of surrogates that were apart, and a second
member of the same name. A value without them is sound. Whatever is read is sound, since the reader
joins pairs and lets the last member of a name stand for all.
-/

set_option autoImplicit false

namespace Dimming

namespace Json

mutual

/-- Whether strings have no pairs of surrogates that are apart, and objects no two members of one
name, all the way down. -/
def isSound : Json → Bool
  | .string value => decide value.Unpaired
  | .array items => itemsSound items
  | .object members => decide (members.map Prod.fst).Nodup && membersSound members
  | _ => true

def itemsSound : List Json → Bool
  | [] => true
  | item :: items => isSound item && itemsSound items

def membersSound : List (Text × Json) → Bool
  | [] => true
  | (key, value) :: members => decide key.Unpaired && isSound value && membersSound members

end

section Members

variable {members others : List (Text × Json)}

theorem members_sound_iff :
    membersSound members = true ↔
      ∀ member ∈ members, member.1.Unpaired ∧ member.2.isSound = true := by
  induction members with
  | nil => exact iff_of_true rfl fun _ absent => absurd absent List.not_mem_nil
  | cons member members ih =>
      obtain ⟨key, value⟩ := member
      simp only [membersSound, Bool.and_eq_true, decide_eq_true_eq, ih, List.forall_mem_cons]

theorem members_fit_iff {limit : Option Nat} :
    membersFit limit members = true ↔ ∀ member ∈ members, member.2.fits limit = true := by
  induction members with
  | nil => exact iff_of_true rfl fun _ absent => absurd absent List.not_mem_nil
  | cons member members ih =>
      obtain ⟨key, value⟩ := member
      simp only [membersFit, Bool.and_eq_true, ih, List.forall_mem_cons]

theorem object_sound_iff :
    (Json.object members).isSound = true ↔
      (members.map Prod.fst).Nodup ∧
        ∀ member ∈ members, member.1.Unpaired ∧ member.2.isSound = true := by
  simp only [isSound, Bool.and_eq_true, decide_eq_true_eq, members_sound_iff]

theorem sound_of_entries (sound : membersSound members = true) :
    (Json.object (Mapping.ofEntries members)).isSound = true := by
  refine object_sound_iff.2 ⟨Mapping.nodup_of_entries members, fun member inside => ?_⟩
  exact members_sound_iff.1 sound member (Mapping.mem_of_entries inside)

theorem sound_put {key : Text} {value : Json} (sound : (Json.object members).isSound = true)
    (unpaired : key.Unpaired) (valueSound : value.isSound = true) :
    (Json.object (Mapping.put key value members)).isSound = true := by
  obtain ⟨distinct, each⟩ := object_sound_iff.1 sound
  refine object_sound_iff.2 ⟨Mapping.nodup_put distinct key value, fun member inside => ?_⟩
  rcases Mapping.mem_put inside with rfl | old
  · exact ⟨unpaired, valueSound⟩
  · exact each member old

end Members

section Reading

variable {limit : Option Nat} {fuel : Nat} {text rest : Text}

theorem read_string_unpaired {value : Text} (read : readString text = .ok (value, rest)) :
    value.Unpaired := by
  obtain ⟨⟨units, left⟩, -, joined⟩ := bind_ok read
  cases joined
  exact join_pairs_unpaired units

theorem read_name_sound {value : Json} (read : readName text = some (value, rest)) :
    value.isSound = true := by
  have named : ∀ entry ∈ names, entry.2.isSound = true := by decide
  obtain ⟨entry, inside, found⟩ := List.exists_of_findSome?_eq_some read
  obtain ⟨left, -, same⟩ := Option.map_eq_some_iff.1 found
  cases same
  exact named entry inside

mutual

theorem read_value_sound (fuel : Nat) {text rest : Text} {value : Json}
    (read : readValue limit fuel text = .ok (value, rest)) : value.isSound = true := by
  match fuel, text with
  | 0, _ => cases read
  | _ + 1, [] => cases read
  | fuel + 1, point :: behind =>
      rw [readValue] at read
      split at read
      · obtain ⟨⟨value, left⟩, quoted, same⟩ := bind_ok read
        cases same
        exact decide_eq_true (read_string_unpaired quoted)
      · split at read
        · split at read
          · cases read
            rfl
          · obtain ⟨⟨items, left⟩, inner, same⟩ := bind_ok read
            cases same
            exact read_items_sound fuel inner
        · split at read
          · split at read
            · cases read
              rfl
            · obtain ⟨⟨members, left⟩, inner, same⟩ := bind_ok read
              cases same
              exact sound_of_entries (read_members_sound fuel inner)
          · split at read
            next named =>
              cases read
              exact read_name_sound named
            · obtain ⟨⟨number, left⟩, -, same⟩ := bind_ok read
              cases same
              rfl

theorem read_items_sound (fuel : Nat) {text rest : Text} {items : List Json}
    (read : readItems limit fuel text = .ok (items, rest)) : itemsSound items = true := by
  match fuel with
  | 0 => cases read
  | fuel + 1 =>
      rw [readItems] at read
      obtain ⟨⟨item, left⟩, first, read⟩ := bind_ok read
      have sound := read_value_sound fuel first
      dsimp only at read
      split at read
      · cases read
        exact Bool.and_eq_true_iff.2 ⟨sound, rfl⟩
      · obtain ⟨⟨items, left⟩, more, same⟩ := bind_ok read
        cases same
        exact Bool.and_eq_true_iff.2 ⟨sound, read_items_sound fuel more⟩
      · cases read

theorem read_members_sound (fuel : Nat) {text rest : Text} {members : List (Text × Json)}
    (read : readMembers limit fuel text = .ok (members, rest)) : membersSound members = true := by
  match fuel with
  | 0 => cases read
  | fuel + 1 =>
      rw [readMembers] at read
      split at read
      · cases read
      obtain ⟨⟨key, left⟩, quoted, read⟩ := bind_ok read
      have unpaired := read_string_unpaired quoted
      dsimp only at read
      split at read
      · cases read
      obtain ⟨⟨value, left⟩, first, read⟩ := bind_ok read
      have sound := read_value_sound fuel first
      have entry : (decide key.Unpaired && value.isSound) = true :=
        Bool.and_eq_true_iff.2 ⟨decide_eq_true unpaired, sound⟩
      dsimp only at read
      split at read
      · cases read
        exact Bool.and_eq_true_iff.2 ⟨entry, rfl⟩
      · obtain ⟨⟨members, left⟩, more, same⟩ := bind_ok read
        cases same
        exact Bool.and_eq_true_iff.2 ⟨entry, read_members_sound fuel more⟩
      · cases read

end

theorem read_sound {value : Json} (ok : read limit text = .ok value) : value.isSound = true := by
  unfold read at ok
  split at ok
  · cases ok
  obtain ⟨⟨value, left⟩, first, ok⟩ := bind_ok ok
  have sound := read_value_sound _ first
  dsimp only at ok
  split at ok
  · cases ok
    exact sound
  · cases ok

end Reading

end Json

end Dimming
