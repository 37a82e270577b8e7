import Dimming.Proofs.Opacity.Display
import Dimming.Proofs.Session.Typing

/-!
# Opacities that are confirmed

The prompt is filled with the opacity that is set. Who confirms it unchanged sets the same opacity
again, unless it is so small that what the prompt was filled with is refused.
-/

set_option autoImplicit false

namespace Dimming

open Dimming.Action

def Typing.unchanged (settings : Settings) : Typing where
  attempts := [Opacity.display settings.opacity]
  checked := true

/-- What comes of it when a dimmer's prompt is confirmed as it stands. -/
def Session.confirmUnchanged (dimmer : Nat) (session : Session) : Except Fault Outcome × Session :=
  Session.step (.changeOpacity dimmer (.unchanged session.settings)) session

namespace Typing

variable {settings : Settings}

theorem problem_unchanged (settings : Settings) :
    problem? (unchanged settings).checked (Opacity.display settings.opacity) =
      if settings.opacity.isTiny then some .notPlainNumber else none :=
  (Opacity.display_shows settings.opacity_between).answered

theorem accepted_unchanged (plain : settings.opacity.isTiny = false) :
    (unchanged settings).accepted = some (Opacity.display settings.opacity) := by
  have fine := problem_unchanged settings
  rw [plain, if_neg Bool.false_ne_true] at fine
  exact List.find?_cons_of_pos (by rw [fine]; rfl)

theorem accepted_unchanged_tiny (tiny : settings.opacity.isTiny = true) :
    (unchanged settings).accepted = none := by
  have wrong := problem_unchanged settings
  rw [if_pos tiny] at wrong
  exact List.find?_cons_of_neg (by rw [wrong]; exact Bool.false_ne_true)

theorem refused_unchanged_tiny (tiny : settings.opacity.isTiny = true) :
    (unchanged settings).refused = [(Opacity.display settings.opacity, .notPlainNumber)] := by
  have wrong := problem_unchanged settings
  rw [if_pos tiny] at wrong
  change refusedAmong _ [_] = _
  rw [refusedAmong, wrong]
  rfl

end Typing

/-- Every opacity that can be set is shown as a text that converts back to it, and unless it is
above nought and below a ten-thousandth, the text is accepted as it stands. In every session that
reads this opacity, confirming it then sets an opacity of the same value; otherwise it is refused
for its form. -/
theorem prefilled_opacity_confirmed_unless_tiny {opacity : Number}
    (inside : opacity.between 0 100 = true) :
    (∃ number, Double.ofText (Opacity.display opacity) = .ok number ∧
      number.signedUnits? = opacity.units?) ∧
    (Opacity.problem? (Opacity.display opacity) =
      if opacity.isTiny then some .notPlainNumber else none) ∧
    ∀ (session : Session) (dimmer : Nat), session.settings.opacity = opacity →
      session.knows (.changeOpacity dimmer (.unchanged session.settings)) = true →
      (opacity.isTiny = true →
        (Typing.unchanged session.settings).refused =
          [(Opacity.display opacity, .notPlainNumber)] ∧
        (session.confirmUnchanged dimmer).2.storage = session.storage) ∧
      (opacity.isTiny = false →
        (∀ text, (session.confirmUnchanged dimmer).1 ≠ .error (.number (.notDecimal text))) ∧
        (wasSaved (session.confirmUnchanged dimmer).1 = true →
          (session.confirmUnchanged dimmer).2.settings.opacity.units? = opacity.units?)) := by
  have shows := Opacity.display_shows inside
  refine ⟨shows.converts, shows.answered, ?_⟩
  rintro session dimmer rfl known
  obtain ⟨⟨opacity, converted, same⟩, answered⟩ := shows
  constructor
  · intro tiny
    refine ⟨Typing.refused_unchanged_tiny tiny, nothing_saved_without_errand rfl ?_⟩
    unfold Operation.errand?
    dsimp only
    rw [Typing.accepted_unchanged_tiny tiny]
    rfl
  · intro plain
    have accepted := Typing.accepted_unchanged plain
    have given : Opacity.display session.settings.opacity ≠ [] := by
      intro nothing
      rw [plain, nothing] at answered
      cases answered
    obtain ⟨clean, kept⟩ := converted_kept known accepted given converted
    refine ⟨clean, fun saved => ?_⟩
    obtain ⟨disk, -, storage⟩ := kept saved
    have memory : (session.confirmUnchanged dimmer).2.settings = _ := congrArg Prod.snd storage
    have same : (Number.double opacity).units? = session.settings.opacity.units? := same
    have reads := Settings.read_opacity_put (Number.between_of_same_units same inside)
      session.settings
    unfold Settings.opacity
    rw [memory, reads]
    exact same

/-- A ten-thousandth is written without an exponent, and confirming it keeps it. -/
theorem ten_thousandth_confirmed :
    let file : List UInt8 := Utf8.encode "\x7b\"opacity\": 0.0001\x7d"
    let session := Session.start (.present (.bytes file)) ⟨[], [], none, []⟩
    Opacity.display session.settings.opacity = "0.0001" ∧
      wasSaved (session.confirmUnchanged 0).1 = true ∧
      (∃ number, Double.ofText (Opacity.display session.settings.opacity) = .ok number ∧
        number.signedUnits? = session.settings.opacity.units?) ∧
      (session.confirmUnchanged 0).2.settings.opacity.units? = session.settings.opacity.units? := by
  intro file session
  have shown : Opacity.display session.settings.opacity = "0.0001" := by decide +kernel
  have saved : wasSaved (session.confirmUnchanged 0).1 = true := by decide +kernel
  have plain : session.settings.opacity.isTiny = false := by decide +kernel
  have inside : session.settings.opacity.between 0 100 = true := by decide +kernel
  obtain ⟨converted, -, confirmed⟩ := prefilled_opacity_confirmed_unless_tiny inside
  exact ⟨shown, saved, converted,
    ((confirmed session 0 rfl (by decide +kernel)).2 plain).2 saved⟩

/-- A tenth of that is written with an exponent, which nobody may type. -/
theorem prefilled_opacity_refused_with_exponent :
    let opacity : Number := .double ((Decimal.mk 1 (-5)).toDouble false)
    opacity.between 0 100 = true ∧ Opacity.display opacity = "1e-05" ∧
      Opacity.problem? (Opacity.display opacity) = some .notPlainNumber := by
  decide +kernel

end Dimming
