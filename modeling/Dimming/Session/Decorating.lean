import Dimming.Session.State

/-!
What a dimmer does on its own: it reads the settings, keeps at most one style live, and
decorates editors with it. A new style is created only after the old one is gone.
-/

set_option autoImplicit false

namespace Dimming

namespace Action

/-- Reads a setting and notes down a complaint about it. -/
def readSetting {Value : Type} (read : Settings → Value × Option Settings.Complaint) :
    Action Value := do
  let (value, complaint) := read (← get).settings
  match complaint with
  | none => return value
  | some complaint =>
      note .warning "settings" complaint.message
      return value

def buildStyle : Action Style := do
  let opacity ← readSetting Settings.readOpacity
  let color ← readSetting Settings.readColor
  if color = Color.ownColor then ofNumber (Style.opacityOnly opacity)
  else ofNumber (Style.colored color opacity)

def disposeStyle (dimmer : Nat) : Action Unit := do
  match (← get).decoration? dimmer with
  | none => return
  | some handle =>
      modifyDimmer dimmer fun entry => { entry with decoration := none, style := none }
      emitBy dimmer (.disposed handle)
      note .debug "decoration" "Disposed log decoration"

def register (dimmer : Nat) (style : Style) : Action Nat := do
  let handle := (← get).nextHandle
  modify fun session => { session with nextHandle := handle + 1 }
  emitBy dimmer (.created handle style)
  return handle

/-- Replaces the live style of a dimmer by the one that the settings describe. -/
def createStyle (dimmer : Nat) : Action Nat := do
  disposeStyle dimmer
  let style ← buildStyle
  let handle ← register dimmer style
  modifyDimmer dimmer fun entry => { entry with decoration := some handle, style := some style }
  note .info "decoration" ("Created log decoration: " ++ style.display)
  return handle

def updateEditor (dimmer editor : Nat) : Action Unit := do
  let session ← get
  match session.decoration? dimmer, session.stage.documentOf? editor with
  | some handle, some document =>
      let ranges := document.statements
      note .debug "log_detector" (Statement.report document.language ranges)
      emitBy dimmer (.decorated editor handle ranges)
  | _, _ => return

def updateOne (dimmer : Nat) : Option Nat → Action Unit
  | none => return
  | some editor => updateEditor dimmer editor

def updateAll (dimmer : Nat) : Action Unit := do
  let editors := (← get).stage.visible
  note .debug "decoration_updater"
    ("Updating decorations of " ++ Text.ofNat editors.length ++ " visible editors")
  editors.forM (updateEditor dimmer)

def decorateActive (dimmer : Nat) : Action Unit := do
  updateOne dimmer (← get).stage.active

def afterRebuild (dimmer : Nat) : Action Unit := do
  let session ← get
  match session.dimmer? dimmer with
  | none => return
  | some entry =>
      match entry.afterRebuild with
      | .updateAll => updateAll dimmer
      | .record => emitBy dimmer (.rebuilt entry.decoration)
      | .nothing => return

/-- Rebuilds the style of a dimmer; without one, if dimming is off. -/
def rebuild (dimmer : Nat) : Action Unit := do
  disposeStyle dimmer
  if ← readSetting Settings.readEnabled then
    discard (createStyle dimmer)
    afterRebuild dimmer
  else note .info "decoration" "Log dimming is disabled, no decoration created"

end Action

end Dimming
