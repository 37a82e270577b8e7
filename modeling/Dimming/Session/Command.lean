import Dimming.Prompt
import Dimming.Session.Notification

/-!
The commands of the user. Each saves the setting first, then rebuilds the style and
decorates, and confirms at the end.
-/

set_option autoImplicit false

namespace Dimming

namespace Action

def disabledMessage : Text := "Please toggle on the extension before changing color."

def ask (typing : Typing) (prefilled : Text) : Action (Option Text) := do
  emit (.asked Prompt.opacity prefilled)
  typing.refused.forM fun entry => emit (.refused entry.1 entry.2)
  return typing.accepted

/-- Asks for an opacity and applies it. Nothing typed is nothing done. -/
def changeOpacity (dimmer : Nat) (typing : Typing) : Action Unit := do
  let current ← readSetting Settings.readOpacity
  let typed := (← ask typing (Opacity.display current)).getD []
  if typed.isEmpty then return
  else
    let opacity ← ofNumber (Double.ofText typed)
    saveOpacity (.number (.double opacity))
    rebuild dimmer
    updateAll dimmer
    emit (.told ("Logs opacity set to " ++ Opacity.display (.double opacity) ++ "%"))
    note .info "commands" ("Changed log opacity to " ++ opacity.toText)

def changeColor (dimmer : Nat) (picked : Option Choice) : Action Unit := do
  if ← readSetting Settings.readEnabled then
    emit (.offered Prompt.color Color.palette.length)
    let color := (picked.map (·.value)).getD []
    if color.isEmpty then return
    else
      saveColor (.string color)
      rebuild dimmer
      emit (.told ("Log color set to " ++ Color.label color))
      note .info "commands" ("Changed log color to " ++ color)
  else emit (.told disabledMessage)

def toggle (dimmer : Nat) : Action Unit := do
  let enabled := !(← readSetting Settings.readEnabled)
  saveEnabled (.bool enabled)
  rebuild dimmer
  let state : Text := if enabled then "enabled" else "disabled"
  emit (.told ("Logs dimming " ++ state))
  note .info "commands" ("Log dimming " ++ state)

end Action

end Dimming
