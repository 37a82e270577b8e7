import Dimming.Session.Command

/-!
Everything that can be done to a session, one operation at a time, and runs of operations.
After an operation that failed the session goes on from where it stopped.
-/

set_option autoImplicit false

namespace Dimming

/-- What is done to a session; the first argument of most is the dimmer it concerns. -/
inductive Operation where
  | activate (dimmer : Nat)
  | deactivate (dimmer : Nat)
  | newDimmer
  | toggle (dimmer : Nat)
  | changeOpacity (dimmer : Nat) (typing : Typing)
  | changeColor (dimmer : Nat) (picked : Option Choice)
  | saveOpacity (value : Json)
  | saveColor (value : Json)
  | saveEnabled (value : Json)
  | readSettings
  | readFresh
  | changeDisk (change : Disk.Change)
  | edit (editor : Nat) (text language : Option Text) (announced : Bool)
  | editElsewhere
  | focus (editor : Option Nat) (announced : Bool)
  | setVisible (editors : List Nat)
  | updateOne (dimmer : Nat) (editor : Option Nat)
  | updateAll (dimmer : Nat)
  | decorateActive (dimmer : Nat)
  | createStyle (dimmer : Nat)
  | disposeStyle (dimmer : Nat)
  | rebuild (dimmer : Nat)
  | buildStyle
  | setAfterRebuild (dimmer : Nat) (after : AfterRebuild)
  | configurationChanged (dimmer : Nat) (keys : List Text)
  | disposeWiring (dimmer : Nat)
  | defineListener (name : Text) (actions : List ListenerAction)
  | addListener (name : Text)
  | removeListener (name : Text)

namespace Operation

def dimmer? : Operation → Option Nat
  | .activate dimmer | .deactivate dimmer => some dimmer
  | .toggle dimmer | .changeOpacity dimmer _ | .changeColor dimmer _ => some dimmer
  | .updateOne dimmer _ | .updateAll dimmer | .decorateActive dimmer => some dimmer
  | .createStyle dimmer | .disposeStyle dimmer | .rebuild dimmer => some dimmer
  | .setAfterRebuild dimmer _ | .configurationChanged dimmer _ | .disposeWiring dimmer =>
      some dimmer
  | _ => none

end Operation

structure Preferences where
  opacity : Number
  color : Text
  enabled : Bool
deriving DecidableEq

inductive Outcome where
  | done
  | handle (handle : Nat)
  | style (style : Style)
  | preferences (preferences : Preferences)
deriving DecidableEq

namespace Settings

def preferences (settings : Settings) : Preferences :=
  ⟨settings.opacity, settings.color, settings.enabled⟩

end Settings

namespace Action

def readPreferences : Action Preferences := do
  let opacity ← readSetting Settings.readOpacity
  let color ← readSetting Settings.readColor
  let enabled ← readSetting Settings.readEnabled
  return ⟨opacity, color, enabled⟩

/-- Reads the file anew, as another program would, and leaves the settings in memory. -/
def readFresh : Action Preferences := do
  let session ← get
  let loading := Settings.Loading.ofDisk session.disk
  set { session with settings := loading.settings, logs := loading.report.reverse ++ session.logs }
  let preferences ← readPreferences
  modify fun later => { later with settings := session.settings }
  return preferences

def announceDocument (document : Nat) : Action Unit := do
  (← get).documentCallbacks.forM (documentChanged document)

def announceActive (editor : Option Nat) : Action Unit := do
  (← get).activeCallbacks.forM (activeEditorChanged editor)

def edit (editor : Nat) (text language : Option Text) (announced : Bool) : Action Unit := do
  match (← get).stage.editors[editor]? with
  | none => return
  | some document =>
      modify fun session =>
        { session with
          stage.documents := session.stage.documents.modify document fun old =>
            ⟨text.getD old.text, language.getD old.language⟩ }
      if announced then announceDocument document

def focus (editor : Option Nat) (announced : Bool) : Action Unit := do
  modify fun session => { session with stage.active := editor }
  if announced then announceActive editor

def lastWiring (dimmer : Nat) : Action Nat := do
  match ((← get).dimmer? dimmer).bind (·.lastWiring) with
  | some wiring => return wiring
  | none => throw (.neverActivated dimmer)

def ofOperation : Operation → Action Outcome
  | .activate dimmer => do activate dimmer; return .done
  | .deactivate dimmer => do deactivate dimmer; return .done
  | .newDimmer => do
      modify fun session => { session with dimmers := session.dimmers ++ [.fresh] }
      return .done
  | .toggle dimmer => do toggle dimmer; return .done
  | .changeOpacity dimmer typing => do changeOpacity dimmer typing; return .done
  | .changeColor dimmer picked => do changeColor dimmer picked; return .done
  | .saveOpacity value => do saveOpacity value; return .done
  | .saveColor value => do saveColor value; return .done
  | .saveEnabled value => do saveEnabled value; return .done
  | .readSettings => do return .preferences (← readPreferences)
  | .readFresh => do return .preferences (← readFresh)
  | .changeDisk change => do
      modify fun session => { session with disk := session.disk.apply change }
      return .done
  | .edit editor text language announced => do edit editor text language announced; return .done
  | .editElsewhere => do announceDocument (← get).stage.elsewhere; return .done
  | .focus editor announced => do focus editor announced; return .done
  | .setVisible editors => do
      modify fun session => { session with stage.visible := editors }
      return .done
  | .updateOne dimmer editor => do updateOne dimmer editor; return .done
  | .updateAll dimmer => do updateAll dimmer; return .done
  | .decorateActive dimmer => do decorateActive dimmer; return .done
  | .createStyle dimmer => do return .handle (← createStyle dimmer)
  | .disposeStyle dimmer => do disposeStyle dimmer; return .done
  | .rebuild dimmer => do rebuild dimmer; return .done
  | .buildStyle => do return .style (← buildStyle)
  | .setAfterRebuild dimmer after => do
      modifyDimmer dimmer fun entry => { entry with afterRebuild := after }
      return .done
  | .configurationChanged dimmer keys => do
      configurationChanged (Change.ofKeys keys) (← lastWiring dimmer)
      return .done
  | .disposeWiring dimmer => do unsubscribe (← lastWiring dimmer); return .done
  | .defineListener name actions => do
      modify fun session => { session with definitions := session.definitions ++ [⟨name, actions⟩] }
      return .done
  | .addListener name => do addListener (← findListener name); return .done
  | .removeListener name => do removeListener (← findListener name); return .done

end Action

namespace Session

/-- Whether the dimmer that an operation concerns is there. -/
def knows (session : Session) (operation : Operation) : Bool :=
  operation.dimmer?.all fun dimmer => decide (dimmer < session.dimmers.length)

/-- Carries out an operation. Nothing is done for a dimmer that is not there. -/
def step (operation : Operation) (session : Session) : Except Fault Outcome × Session :=
  if session.knows operation then (Action.ofOperation operation).run session
  else (.ok .done, session)

def run (session : Session) : List Operation → List (Except Fault Outcome × Session)
  | [] => []
  | operation :: operations =>
      let result := step operation session
      result :: run result.2 operations

end Session

end Dimming
