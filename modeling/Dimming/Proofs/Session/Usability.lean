import Dimming.Proofs.Opacity.Display
import Dimming.Proofs.Session.Storage
import Dimming.Proofs.Style.Channels

/-!
# Usable settings

Whatever the settings file holds and whatever is saved later, the three settings have a meaning,
and so has the style that they describe.
-/

set_option autoImplicit false

namespace Dimming

open Dimming.Action

/-- A number from nought to a hundred, neither infinite nor none at all. -/
def Number.IsPercentage (number : Number) : Prop :=
  ∃ units, number.units? = some units ∧ 0 ≤ units ∧ units ≤ 100 * Double.unitsPerOne

/-- The word for the document's own colour, or six hexadecimal digits behind a number sign. -/
def Color.IsUsable (color : Text) : Prop :=
  color = Color.ownColor ∨ ∃ digits red green blue, HexColor color digits red green blue

/-- What a style makes of an opacity and a colour. It has no colour of its own, or it has the one
that is stored with the alpha channel of the opacity in two digits behind it, and its channels are
the values of the four pairs. -/
structure Renders (opacity : Number) (color : Text) (style : Style) : Prop where
  own : color = Color.ownColor → style.color = none ∧ style.channels = .ok none
  colored : color ≠ Color.ownColor → ∃ digits suffix red green blue alpha,
    HexColor color digits red green blue ∧ style.color = some (color ++ suffix) ∧
    suffix.length = 2 ∧ suffix.all CodePoint.isUpperHexDigit = true ∧
    Opacity.alpha opacity = .ok alpha ∧ alpha ≤ 255 ∧ pairValue? suffix = some alpha ∧
    style.channels = .ok (some ⟨red, green, blue, alpha⟩)

namespace Number

theorem percentage_of_between {number : Number} (inside : number.between 0 100 = true) :
    number.IsPercentage := by
  obtain ⟨units, known⟩ := units_of_between inside
  have bounds := (between_iff known).1 inside
  rw [Int.zero_mul] at bounds
  exact ⟨units, known, bounds⟩

end Number

namespace Settings

theorem style_renders {settings : Settings} {style : Style}
    (described : settings.style = .ok style) :
    Renders settings.opacity settings.color style := by
  unfold Settings.style at described
  split at described
  next own =>
    obtain ⟨fraction, quotient, -⟩ := Number.div_nat_of_between settings.opacity_between
    rw [Style.opacityOnly, quotient] at described
    cases described
    exact ⟨fun _ => ⟨rfl, rfl⟩, fun other => absurd own other⟩
  next other =>
    refine ⟨fun own => absurd own other, fun _ => ?_⟩
    obtain ⟨alpha, encoded⟩ := Opacity.alpha_of_between settings.opacity_between
    obtain ⟨digits, red, green, blue, hex⟩ :=
      (Color.valid_cases settings.color_valid).resolve_left other
    have small := Opacity.alpha_le encoded
    obtain ⟨two, upper, alphas⟩ := Opacity.alpha_text_pair small
    rw [Style.colored, Opacity.alphaHex, encoded] at described
    cases described
    have read := Style.read_channels_of_pairs hex two alphas
    exact ⟨digits, _, red, green, blue, alpha, hex, rfl, two, upper, encoded, small, alphas,
      congrArg (Except.map some) read⟩

end Settings

/-- Whatever the settings file holds, and whatever is done and saved afterwards, the settings read
as an opacity between 0 and 100, a colour and a switch, and the style is built that renders them. -/
theorem settings_always_usable (disk : Disk) (stage : Stage) (operations : List Operation) :
    let session := (Session.start disk stage).through operations
    ∃ opacity color enabled style,
      (∃ logs, Session.step .readSettings session =
        (.ok (.preferences ⟨opacity, color, enabled⟩), { session with logs })) ∧
      opacity.IsPercentage ∧ Color.IsUsable color ∧
      (∃ logs, Session.step .buildStyle session = (.ok (.style style), { session with logs })) ∧
      Renders opacity color style := by
  intro session
  let settings := session.settings
  obtain ⟨style, described⟩ := settings.style_exists
  refine ⟨settings.opacity, settings.color, settings.enabled, style, ?_,
    Number.percentage_of_between settings.opacity_between,
    Color.valid_cases settings.color_valid, ?_, Settings.style_renders described⟩
  · exact run_of_yields (yields_bind (read_preferences_yields session) (yields_pure _ session))
  · exact run_of_yields (yields_bind (build_style_yields described) (yields_pure _ session))

/-- An opacity that is no number counts as the default, and the letters of a colour are kept as
they are. -/
theorem malformed_file_still_rendered :
    let file : Text := "\x7b\"opacity\": NaN, \"color\": \"#aBcDeF\"\x7d"
    let session := Session.start (.present (.bytes (Utf8.encode file))) ⟨[], [], none, []⟩
    ∃ style logs, Session.step .buildStyle session = (.ok (.style style), { session with logs }) ∧
      Renders (.int 50) "#aBcDeF" style := by
  intro file session
  obtain ⟨opacity, color, enabled, style, ⟨logs, read⟩, -, -, ⟨logs', built⟩, renders⟩ :=
    settings_always_usable (.present (.bytes (Utf8.encode file))) ⟨[], [], none, []⟩ []
  have known : (Session.step .readSettings session).1.toOption =
      some (.preferences ⟨.int 50, "#aBcDeF", true⟩) := by
    decide +kernel
  cases known.symm.trans (congrArg (·.1.toOption) read)
  exact ⟨style, logs', built, renders⟩

end Dimming
