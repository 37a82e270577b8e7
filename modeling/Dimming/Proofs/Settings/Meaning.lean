import Dimming.Proofs.Number.Bound
import Dimming.Settings.Values
import Dimming.Style

/-!
# What stored settings mean

Whatever is stored, the three settings read as usable values, and the style that they
describe exists. Putting one key leaves the meaning of the others alone.
-/

set_option autoImplicit false

namespace Dimming

namespace Mapping

variable {Key Value : Type} [DecidableEq Key]

theorem get_put_self (key : Key) (value : Value) (mapping : Mapping Key Value) :
    (mapping.put key value).get? key = some value := by
  induction mapping with
  | nil => simp [put, get?]
  | cons entry rest ih =>
      by_cases same : entry.1 = key
      · simp [put, get?, same]
      · simp [put, get?, same, ih]

theorem get_put_of_ne {key other : Key} (different : key ≠ other) (value : Value)
    (mapping : Mapping Key Value) : (mapping.put key value).get? other = mapping.get? other := by
  induction mapping with
  | nil => simp [put, get?, different]
  | cons entry rest ih =>
      by_cases same : entry.1 = key
      · simp [put, get?, same, different]
      · by_cases here : entry.1 = other
        · simp [put, get?, here, Ne.symm different]
        · simp [put, get?, same, here, ih]

end Mapping

namespace Settings

theorem default_opacity_between : defaultOpacity.between 0 100 = true := by decide

theorem opacity_between (settings : Settings) : settings.opacity.between 0 100 = true := by
  unfold opacity readOpacity
  split
  · exact default_opacity_between
  · split
    · assumption
    · exact default_opacity_between
  · exact default_opacity_between

theorem color_valid (settings : Settings) : Color.isValidText settings.color = true := by
  have default_valid : Color.isValidText defaultColor = true := by decide
  unfold color readColor
  split
  · exact default_valid
  · split
    · assumption
    · exact default_valid
  · exact default_valid

theorem enabled_put_of_ne {key : Text} (different : key ≠ enabledKey) (value : Json)
    (settings : Settings) : enabled (settings.put key value) = enabled settings := by
  simp only [enabled, readEnabled, Mapping.get_put_of_ne different]

def style (settings : Settings) : Except NumberFault Style :=
  if settings.color = Color.ownColor then Style.opacityOnly settings.opacity
  else Style.colored settings.color settings.opacity

theorem style_exists (settings : Settings) : ∃ built, settings.style = .ok built := by
  have inside := opacity_between settings
  unfold style
  split
  · obtain ⟨fraction, quotient, -⟩ := Number.div_nat_of_between inside
    exact ⟨_, by rw [Style.opacityOnly, quotient]; rfl⟩
  · obtain ⟨channel, alpha⟩ := Opacity.alpha_of_between inside
    exact ⟨_, by rw [Style.colored, Opacity.alphaHex, alpha]; rfl⟩

end Settings

end Dimming
