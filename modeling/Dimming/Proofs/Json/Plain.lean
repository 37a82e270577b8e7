import Dimming.Proofs.Json.Escape
import Dimming.Proofs.Json.Number
import Dimming.Proofs.Text.Utf8

/-!
# Values are written in visible text

Numbers are written in digits, signs and letters, and strings in visible ASCII with escapes for the
rest. So a written value consists of visible points and of what its layout adds: one on a line stays
on it, and one with an item on each line is plain text.
-/

set_option autoImplicit false

namespace Dimming

/-- The points of ASCII that are seen, and the space. -/
def CodePoint.IsVisible (point : CodePoint) : Prop := 0x20 ≤ point.value ∧ point.value ≤ 0x7e

instance : DecidablePred CodePoint.IsVisible := fun _ => inferInstanceAs (Decidable (_ ∧ _))

open Text

namespace Text

section Kinds

variable {kind : CodePoint → Prop} {text other : Text} {point : CodePoint}

/-- All points of a text are of a kind. -/
def Of (kind : CodePoint → Prop) (text : Text) : Prop := ∀ point ∈ text, kind point

instance [DecidablePred kind] (text : Text) : Decidable (text.Of kind) :=
  inferInstanceAs (Decidable (∀ point ∈ text, kind point))

theorem of_nil : Of kind [] := fun _ absent => absurd absent List.not_mem_nil

theorem of_cons : Of kind (point :: text) ↔ kind point ∧ text.Of kind := List.forall_mem_cons

theorem of_append : Of kind (text ++ other) ↔ text.Of kind ∧ other.Of kind :=
  List.forall_mem_append

theorem Of.imp {broader : CodePoint → Prop} (all : text.Of kind)
    (within : ∀ point, kind point → broader point) : text.Of broader :=
  fun point inside => within point (all point inside)

abbrev IsVisible (text : Text) : Prop := text.Of CodePoint.IsVisible

theorem plain_of_visible (visible : text.IsVisible) : text.IsPlain := by
  intro point inside
  obtain ⟨low, high⟩ := visible point inside
  refine ⟨by omega, ?_⟩
  rintro rfl
  exact absurd low (by decide)

theorem unpaired_of_visible (visible : text.IsVisible) : text.Unpaired := by
  refine unpaired_of_no_high fun point inside => ?_
  obtain ⟨-, high⟩ := visible point inside
  exact decide_eq_false (by omega)

end Kinds

section Digits

variable {base : Nat} {digits : List Nat}

theorem visible_spelled (few : base ≤ 16) (known : InBase base digits) :
    (spelled digits).IsVisible := by
  have each : ∀ digit < 16, (CodePoint.ofDigit digit).IsVisible := by decide
  intro point inside
  obtain ⟨digit, among, rfl⟩ := List.mem_map.1 inside
  exact each digit (Nat.lt_of_lt_of_le (known digit among) few)

theorem visible_of_nat (many : 1 < base) (few : base ≤ 16) (value : Nat) :
    (ofNatInBase base value).IsVisible := by
  rw [of_nat_in_base_eq many]
  exact visible_spelled few (numeral_in_base many value)

theorem visible_pad_left {text : Text} (visible : text.IsVisible) (width : Nat) :
    (padLeft width '0' text).IsVisible := by
  refine of_append.2 ⟨fun point inside => ?_, visible⟩
  rw [List.eq_of_mem_replicate inside]
  decide

end Digits

end Text

namespace Spelling

theorem visible (spelling : Spelling) : spelling.text.IsVisible := by
  have fraction : spelling.fractionPart.IsVisible := by
    unfold fractionPart
    split
    · exact of_nil
    · exact of_append.2 ⟨by decide, visible_spelled (by decide) spelling.known⟩
  have exponent : spelling.exponentPart.IsVisible := by
    unfold exponentPart
    split
    · exact of_nil
    · refine of_append.2 ⟨by decide, of_cons.2 ⟨?_, ?_⟩⟩
      · split <;> decide
      · exact visible_pad_left (visible_of_nat (by decide) (by decide) _) 2
  have whole : (spelled spelling.whole).IsVisible :=
    visible_spelled (by decide) spelling.proper.known
  exact of_append.2 ⟨whole, of_append.2 ⟨fraction, exponent⟩⟩

end Spelling

namespace Json

theorem visible_signed {text : Text} (visible : text.IsVisible) (negative : Bool) :
    (signed negative text).IsVisible := by
  cases negative with
  | false => exact visible
  | true => exact of_cons.2 ⟨by decide, visible⟩

theorem visible_of_int (value : Int) : (Text.ofInt value).IsVisible := by
  rw [of_int_eq]
  exact visible_signed (visible_spelled (by decide) (whole_numeral _).known) _

theorem visible_number (number : Number) : (writeNumber number).IsVisible := by
  match number with
  | .int value => exact visible_of_int value
  | .double .nan => decide
  | .double (.infinity true) => decide
  | .double (.infinity false) => decide
  | .double (.finite negative magnitude) =>
      obtain ⟨spelling, written, -⟩ := Double.magnitude_spelling magnitude
      rw [write_finite_eq, written]
      exact visible_signed spelling.visible _

theorem visible_escape_point (point : CodePoint) : (escapePoint point).IsVisible := by
  unfold escapePoint
  split_ifs with quote escape lineFeed carriage tab formFeed backspace visible
  any_goals decide
  · exact of_cons.2 ⟨visible, of_nil⟩
  · intro digit inside
    obtain ⟨unit, -, written⟩ := List.mem_flatMap.1 inside
    have escaped : (Text.ofString "\\u" ++ ofNatHex 4 unit).IsVisible :=
      of_append.2 ⟨by decide, visible_pad_left (visible_of_nat (by decide) (by decide) unit) 4⟩
    exact escaped digit written

theorem visible_string (text : Text) : (writeString text).IsVisible := by
  have inner : Text.IsVisible (text.flatMap escapePoint) := by
    intro point inside
    obtain ⟨source, -, written⟩ := List.mem_flatMap.1 inside
    exact visible_escape_point source point written
  exact of_append.2 ⟨of_append.2 ⟨by decide, inner⟩, by decide⟩

section Layouts

variable {layout : Layout} {kind : CodePoint → Prop}
  (visible : ∀ point : CodePoint, point.IsVisible → kind point)
  (laidOut : ∀ level, (layout.edge level).Of kind ∧ (layout.gap level).Of kind)

include visible laidOut

mutual

theorem of_written (level : Nat) (value : Json) : (writeIn layout level value).Of kind := by
  match value with
  | .null => exact Of.imp (by decide : (Text.ofString "null").IsVisible) visible
  | .bool true => exact Of.imp (by decide : (Text.ofString "true").IsVisible) visible
  | .bool false => exact Of.imp (by decide : (Text.ofString "false").IsVisible) visible
  | .number amount =>
      rw [writeIn]
      exact (visible_number amount).imp visible
  | .string text =>
      rw [writeIn]
      exact (visible_string text).imp visible
  | .array [] => exact Of.imp (by decide : (Text.ofString "[]").IsVisible) visible
  | .array (item :: items) =>
      have first := of_written (level + 1) item
      have others := of_items (level + 1) items
      have opening : (Text.ofString "[").Of kind := Of.imp (by decide) visible
      have closing : (Text.ofString "]").Of kind := Of.imp (by decide) visible
      rw [writeIn]
      simp only [of_append]
      exact ⟨⟨⟨⟨⟨opening, (laidOut _).1⟩, first⟩, others⟩, (laidOut _).1⟩, closing⟩
  | .object [] => exact Of.imp (by decide : (Text.ofString "\x7b\x7d").IsVisible) visible
  | .object ((key, member) :: members) =>
      have first := of_written (level + 1) member
      have others := of_members (level + 1) members
      have opening : (Text.ofString "\x7b").Of kind := Of.imp (by decide) visible
      have colon : (Text.ofString ": ").Of kind := Of.imp (by decide) visible
      have closing : (Text.ofString "\x7d").Of kind := Of.imp (by decide) visible
      rw [writeIn]
      simp only [of_append]
      exact ⟨⟨⟨⟨⟨⟨⟨opening, (laidOut _).1⟩, (visible_string key).imp visible⟩, colon⟩, first⟩, others⟩,
        (laidOut _).1⟩, closing⟩

theorem of_items (level : Nat) (items : List Json) : (writeItems layout level items).Of kind := by
  match items with
  | [] => exact of_nil
  | item :: items =>
      have first := of_written level item
      have others := of_items level items
      have comma : (Text.ofString ",").Of kind := Of.imp (by decide) visible
      rw [writeItems]
      simp only [of_append]
      exact ⟨⟨⟨comma, (laidOut _).2⟩, first⟩, others⟩

theorem of_members (level : Nat) (members : List (Text × Json)) :
    (writeMembers layout level members).Of kind := by
  match members with
  | [] => exact of_nil
  | (key, member) :: members =>
      have first := of_written level member
      have others := of_members level members
      have comma : (Text.ofString ",").Of kind := Of.imp (by decide) visible
      have colon : (Text.ofString ": ").Of kind := Of.imp (by decide) visible
      rw [writeMembers]
      simp only [of_append]
      exact ⟨⟨⟨⟨⟨comma, (laidOut _).2⟩, (visible_string key).imp visible⟩, colon⟩, first⟩, others⟩

end

end Layouts

/-- On one line, a value is visible throughout: no break is in it. -/
theorem visible_written (value : Json) : (write value).IsVisible := by
  have gap : (Text.ofString " ").IsVisible := by decide
  exact of_written (fun _ => id) (fun _ => ⟨of_nil, gap⟩) 0 value

theorem plain_indented (value : Json) : (writeIndented value).IsPlain := by
  have visible (point : CodePoint) (seen : point.IsVisible) : point.value < 0x80 ∧ point ≠ '\r' :=
    plain_of_visible (List.forall_mem_singleton.2 seen) point List.mem_cons_self
  have blank (level : Nat) : (newLine level).IsPlain := by
    refine plain_append.2 ⟨by decide, fun point inside => ?_⟩
    rw [List.eq_of_mem_replicate inside]
    decide
  have laidOut (level : Nat) : (Layout.indented.edge level).IsPlain ∧
      (Layout.indented.gap level).IsPlain := ⟨blank level, blank level⟩
  exact of_written visible laidOut 0 value

end Json

end Dimming
