import Dimming.Settings.Values
import Dimming.Statement.Detection
import Dimming.Style

/-!
The state of a session: documents and editors on a stage, any number of dimmers that share
one set of settings, what they have subscribed to, and everything that has happened so far.
Happenings and log lines are kept newest first. An operation may fail half-way; what it did
before stands.
-/

set_option autoImplicit false

namespace Dimming

/-- What the editor window shows. An editor is named by its place in `editors`, where the
place of its document in `documents` stands; two editors may share a document. -/
structure Stage where
  documents : List Document
  editors : List Nat
  active : Option Nat
  visible : List Nat

namespace Stage

def documentOf? (stage : Stage) (editor : Nat) : Option Document :=
  stage.editors[editor]?.bind fun document => stage.documents[document]?

/-- A document that no editor shows. -/
def elsewhere (stage : Stage) : Nat := stage.editors.foldr max 0 + 1

end Stage

/-- A style registered with the editor window, and the handle it is known by. -/
structure LiveStyle where
  handle : Nat
  style : Style
deriving DecidableEq

inductive AfterRebuild where
  | updateAll
  | record
  | nothing
deriving DecidableEq

/-- One dimmer. It keeps the handle of its decoration beside the style that it was made
for. The last wiring is remembered when the dimmer is switched off. -/
structure Dimmer where
  decoration : Option Nat
  style : Option Style
  wiring : Option Nat
  lastWiring : Option Nat
  afterRebuild : AfterRebuild

namespace Dimmer

def fresh : Dimmer := ⟨none, none, none, none, .updateAll⟩

/-- The decoration and its style, if there are both. -/
def live (dimmer : Dimmer) : Option LiveStyle :=
  dimmer.decoration.bind fun handle => dimmer.style.map fun style => ⟨handle, style⟩

end Dimmer

/-- The handlers of one activation, subscribed until they are disposed of. -/
structure Wiring where
  dimmer : Nat
  subscribed : Bool

inductive ListenerAction where
  | raise (text : Text)
  | remove (name : Text)
  | add (name : Text)

/-- The actions are done in order until one fails. -/
structure ListenerDefinition where
  name : Text
  actions : List ListenerAction

/-- Who is told of a change: the handlers of a wiring or a defined listener. -/
inductive Listener where
  | wiring (wiring : Nat)
  | defined (definition : Nat)
deriving DecidableEq

inductive Event where
  | created (handle : Nat) (style : Style)
  | disposed (handle : Nat)
  | decorated (editor handle : Nat) (ranges : List DisplayRange)
  | asked (prompt prefilled : Text)
  | refused (answer : Text) (problem : Opacity.Problem)
  | offered (placeholder : Text) (choices : Nat)
  | told (message : Text)
  | notified (listener : Text) (keys : List Text)
  | rebuilt (live : Option Nat)
deriving DecidableEq

/-- An event, and the dimmer whose own doing it was, if it was one's. -/
structure Happening where
  dimmer : Option Nat
  event : Event
deriving DecidableEq

structure Session where
  disk : Disk
  settings : Settings
  listeners : List Listener
  stage : Stage
  activeCallbacks : List Nat
  documentCallbacks : List Nat
  nextHandle : Nat
  dimmers : List Dimmer
  wirings : List Wiring
  definitions : List ListenerDefinition
  happenings : List Happening
  logs : List LogLine

/-- A step of a session, which may fail. -/
abbrev Action := ExceptT Fault (StateM Session)

namespace Session

/-- A session on a disk and a stage, with one dimmer that is not active. -/
def start (disk : Disk) (stage : Stage) : Session :=
  let loading := Settings.Loading.ofDisk disk
  { disk
    settings := loading.settings
    listeners := []
    stage
    activeCallbacks := []
    documentCallbacks := []
    nextHandle := 1
    dimmers := [.fresh]
    wirings := []
    definitions := []
    happenings := []
    logs := loading.report.reverse }

def dimmer? (session : Session) (dimmer : Nat) : Option Dimmer := session.dimmers[dimmer]?

def live? (session : Session) (dimmer : Nat) : Option LiveStyle :=
  (session.dimmer? dimmer).bind (·.live)

def decoration? (session : Session) (dimmer : Nat) : Option Nat :=
  (session.dimmer? dimmer).bind (·.decoration)

def events (session : Session) : List Event := session.happenings.map (·.event)

/-- The events of a later state that an earlier one has not seen, oldest first. -/
def eventsSince (earlier later : Session) : List Event :=
  (later.events.take (later.events.length - earlier.events.length)).reverse

def logsSince (earlier later : Session) : List LogLine :=
  (later.logs.take (later.logs.length - earlier.logs.length)).reverse

end Session

namespace Action

def run {Value : Type} (action : Action Value) (session : Session) :
    Except Fault Value × Session :=
  StateT.run (ExceptT.run action) session

def emit (event : Event) : Action Unit :=
  modify fun session => { session with happenings := ⟨none, event⟩ :: session.happenings }

/-- What a dimmer itself does to its style or to an editor. -/
def emitBy (dimmer : Nat) (event : Event) : Action Unit :=
  modify fun session => { session with happenings := ⟨some dimmer, event⟩ :: session.happenings }

def note (severity : Severity) (part text : Text) : Action Unit :=
  modify fun session => { session with logs := ⟨severity, part, text⟩ :: session.logs }

def modifyDimmer (dimmer : Nat) (change : Dimmer → Dimmer) : Action Unit :=
  modify fun session => { session with dimmers := session.dimmers.modify dimmer change }

def ofNumber {Value : Type} : Except NumberFault Value → Action Value
  | .ok value => pure value
  | .error fault => throw (.number fault)

end Action

end Dimming
