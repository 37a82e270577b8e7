import Dimming.Change
import Dimming.Session.Decorating

/-!
Who is told of what. The handlers of a wiring follow the active editor, its document and
the opacity; a saved setting is on disk and in memory before the listeners that were
registered at that moment hear of it, in order, until one of them fails.
-/

set_option autoImplicit false

namespace Dimming

namespace Action

def dimmerOf? (session : Session) (wiring : Nat) : Option Nat :=
  session.wirings[wiring]?.map (·.dimmer)

def activeEditorChanged (editor : Option Nat) (wiring : Nat) : Action Unit := do
  match dimmerOf? (← get) wiring with
  | none => return
  | some dimmer => updateOne dimmer editor

/-- A wiring is told of a changed document. Only the active editor is looked after. -/
def documentChanged (document : Nat) (wiring : Nat) : Action Unit := do
  let session ← get
  match dimmerOf? session wiring, session.stage.active with
  | some dimmer, some editor =>
      if session.stage.editors[editor]? = some document then updateEditor dimmer editor
      else return
  | _, _ => return

/-- A wiring is told of changed settings. Only the opacity matters: commands see to the
rest. -/
def configurationChanged (change : Change) (wiring : Nat) : Action Unit := do
  if change.affects (Change.fullKey Settings.opacityKey) then
    note .debug "event_listeners" ("Opacity setting changed: " ++ change.display)
    match dimmerOf? (← get) wiring with
    | none => return
    | some dimmer =>
        rebuild dimmer
        updateAll dimmer
  else return

def addListener (listener : Listener) : Action Unit :=
  modify fun session =>
    if session.listeners.contains listener then session
    else { session with listeners := session.listeners ++ [listener] }

def removeListener (listener : Listener) : Action Unit :=
  modify fun session => { session with listeners := session.listeners.erase listener }

def definitionOf? (session : Session) (name : Text) : Option Nat :=
  (List.range session.definitions.length).reverse.find? fun definition =>
    (session.definitions[definition]?.map (·.name)) == some name

def findListener (name : Text) : Action Listener := do
  match definitionOf? (← get) name with
  | some definition => return .defined definition
  | none => throw (.unknownListener name)

def perform (action : ListenerAction) : Action Unit := do
  match action with
  | .raise text => throw (.raised text)
  | .remove name => removeListener (← findListener name)
  | .add name => addListener (← findListener name)

def deliver (change : Change) : Listener → Action Unit
  | .wiring wiring => configurationChanged change wiring
  | .defined definition => do
      match (← get).definitions[definition]? with
      | none => return
      | some listener =>
          emit (.notified listener.name change.keys)
          listener.actions.forM perform

def notify (change : Change) : Action Unit := do
  (← get).listeners.forM (deliver change)

/-- Prepares the disk for a setting, which cannot be saved if that fails. -/
def prepare (key : Text) (step : Disk → Option Disk) : Action Unit := do
  let session ← get
  match step session.disk with
  | none => throw (.cannotSave key)
  | some disk => set { session with disk }

/-- Puts a setting on disk and in memory. Settings with a number too long are in the file by half
when that is found out, and in memory nothing has changed. -/
def store (key : Text) (value : Json) : Action Unit := do
  let settings : Settings := (← get).settings.put key value
  prepare key Disk.withFolder?
  prepare key Disk.opened?
  if settings.isStorable then
    modify fun session => { session with disk := session.disk.holding settings.encode, settings }
    note .info "settings" ("Saved setting " ++ Change.fullKey key ++ " = " ++ value.display)
  else
    modify fun session => { session with disk := session.disk.holding settings.encodePart }
    throw (.number .tooManyDigits)

def save (key : Text) (value : Json) : Action Unit := do
  store key value
  notify (Change.ofKeys [key])

def saveOpacity (value : Json) : Action Unit := save Settings.opacityKey value

def saveColor (value : Json) : Action Unit := do
  if Color.isValid value then save Settings.colorKey value else throw (.invalidColor value)

def saveEnabled (value : Json) : Action Unit := save Settings.enabledKey value

def subscribe (dimmer : Nat) : Action Nat := do
  let wiring := (← get).wirings.length
  modify fun session =>
    { session with
      wirings := session.wirings ++ [⟨dimmer, true⟩]
      activeCallbacks := session.activeCallbacks ++ [wiring]
      documentCallbacks := session.documentCallbacks ++ [wiring] }
  addListener (.wiring wiring)
  note .info "event_listeners" "Registered event listeners"
  return wiring

/-- Ends the subscriptions of a wiring. A second time does nothing. -/
def unsubscribe (wiring : Nat) : Action Unit := do
  if ((← get).wirings[wiring]?.map (·.subscribed)) = some true then
    modify fun session =>
      { session with
        wirings := session.wirings.modify wiring fun entry => { entry with subscribed := false }
        activeCallbacks := session.activeCallbacks.erase wiring
        documentCallbacks := session.documentCallbacks.erase wiring }
    removeListener (.wiring wiring)
    note .info "event_listeners" "Unregistered event listeners"
  else return

def activate (dimmer : Nat) : Action Unit := do
  match (← get).dimmer? dimmer with
  | none => return
  | some entry =>
      if entry.wiring.isSome then note .warning "extension" "Log dimming already activated"
      else
        if ← readSetting Settings.readEnabled then discard (createStyle dimmer)
        decorateActive dimmer
        let wiring ← subscribe dimmer
        modifyDimmer dimmer fun entry =>
          { entry with wiring := some wiring, lastWiring := some wiring }
        note .info "extension" "Log dimming activated"

def deactivate (dimmer : Nat) : Action Unit := do
  match ((← get).dimmer? dimmer).bind (·.wiring) with
  | none => pure ()
  | some wiring =>
      unsubscribe wiring
      modifyDimmer dimmer fun entry => { entry with wiring := none }
  disposeStyle dimmer
  note .info "extension" "Log dimming deactivated"

end Action

end Dimming
