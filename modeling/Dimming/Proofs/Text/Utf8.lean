import Dimming.Text.Lines
import Dimming.Text.Utf8

/-!
# Plain text

Text in ASCII whose only line breaks are line feeds goes through a file unchanged: each code point
is one byte, and there is no line break to unify.
-/

set_option autoImplicit false

namespace Dimming

namespace Text

/-- ASCII without carriage returns. -/
def IsPlain (text : Text) : Prop := ∀ point ∈ text, point.value < 0x80 ∧ point ≠ '\r'

instance (text : Text) : Decidable text.IsPlain :=
  inferInstanceAs (Decidable (∀ point ∈ text, point.value < 0x80 ∧ point ≠ '\r'))

section Plain

variable {text other : Text} {point : CodePoint}

@[simp]
theorem plain_cons :
    IsPlain (point :: text) ↔ (point.value < 0x80 ∧ point ≠ '\r') ∧ text.IsPlain :=
  List.forall_mem_cons

@[simp]
theorem plain_append : IsPlain (text ++ other) ↔ text.IsPlain ∧ other.IsPlain :=
  List.forall_mem_append

theorem unify_breaks_plain (plain : text.IsPlain) : text.unifyBreaks = text := by
  induction text with
  | nil => rfl
  | cons point text ih =>
      obtain ⟨⟨-, noReturn⟩, rest⟩ := plain_cons.1 plain
      rw [unifyBreaks.eq_def]
      dsimp only
      rw [if_neg noReturn, ih rest]

end Plain

end Text

namespace Utf8

variable {text : Text} {point : CodePoint}

theorem join_points (offset : Nat) (text : Text) : join offset (text.map .point) = .ok text := by
  induction text generalizing offset with
  | nil => rfl
  | cons point text ih =>
      rw [List.map_cons, join, ih]
      rfl

theorem encode_cons_ascii (small : point.value < 0x80) (text : Text) :
    encode (point :: text) = UInt8.ofNat point.value :: encode text := by
  unfold encode encodePoint
  rw [List.flatMap_cons]
  dsimp only
  rw [if_pos small]
  rfl

theorem lead_ascii {value : Nat} (small : value < 0x80) :
    lead? (UInt8.ofNat value) = some ⟨value, 0, 0x80, 0xBF⟩ := by
  have same : (UInt8.ofNat value).toNat = value := by
    rw [UInt8.toNat_ofNat']
    exact Nat.mod_eq_of_lt (by omega)
  unfold lead?
  rw [same]
  exact if_pos small

theorem parts_within_plain {fuel : Nat} (plain : text.IsPlain) (enough : text.length ≤ fuel) :
    partsWithin fuel (encode text) = text.map .point := by
  induction text generalizing fuel with
  | nil => cases fuel <;> rfl
  | cons point text ih =>
      obtain ⟨⟨small, -⟩, rest⟩ := Text.plain_cons.1 plain
      cases fuel with
      | zero => exact absurd enough (Nat.not_succ_le_zero _)
      | succ fuel =>
          have found : CodePoint.ofNat? point.value = some point := dif_pos point.value_lt
          rw [encode_cons_ascii small, partsWithin, lead_ascii small]
          dsimp only [readFollowing, Option.bind_some]
          rw [found]
          dsimp only
          rw [ih rest (Nat.le_of_succ_le_succ enough), List.map_cons]

theorem length_encode_plain (plain : text.IsPlain) : (encode text).length = text.length := by
  induction text with
  | nil => rfl
  | cons point text ih =>
      obtain ⟨⟨small, -⟩, rest⟩ := Text.plain_cons.1 plain
      rw [encode_cons_ascii small, List.length_cons, List.length_cons, ih rest]

theorem decode_encode_plain (plain : text.IsPlain) : decode (encode text) = .ok text := by
  have enough : text.length ≤ (encode text).length := Nat.le_of_eq (length_encode_plain plain).symm
  unfold decode parts
  rw [parts_within_plain plain enough, join_points]

end Utf8

end Dimming
