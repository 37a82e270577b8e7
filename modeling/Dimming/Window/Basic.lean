import Dimming.Configuration.Basic
import Dimming.Session.Operation
import Dimming.Surface.Basic
import Dimming.Window.Call
import Dimming.Window.Folder

/-!
A window with one tab for each opened text and one dimmer, which is active from the
beginning. The window moves its surface and announces what has moved to the dimmer; what
the dimmer does then is carried out on the surface. The number of a text is that of its
pane, its sheet and the widget in its tab. Which number is current after a tab was added or taken
out is up to the row of tabs, which announces every change of it.
-/

set_option autoImplicit false

namespace Dimming

structure Sheet where
  path : Text
  fontSize : Int
  deleted : Bool

structure Tab where
  widget : Nat
  text : Text
  toolTip : Text

/-- The numbers that a row of tabs announces by itself, one after the other: when a tab has been
added and is shown, and when the one at an index has been taken out. Given are the number of tabs
then and the number that was current before. -/
structure TabRow where
  whenOpened : (tabs : Nat) → (current : Int) → List Int
  whenClosed : (tabs : Nat) → (index current : Int) → List Int

namespace TabRow

def silent : TabRow := ⟨fun _ _ => [], fun _ _ _ => []⟩

/-- A row that announces whatever becomes current. In place of a closed tab that is the one behind
it, or the last one if there is none. -/
def following : TabRow where
  whenOpened tabs current := if current = tabs - 1 then [] else [tabs - 1]
  whenClosed tabs index current :=
    if index = current then [min index (tabs - 1)]
    else if index < current then [current - 1]
    else []

end TabRow

/-- `editorOf` leads from the widgets of open tabs to their editors. Calls are kept newest
first. -/
structure Window where
  system : Text
  configuration : Configuration
  folder : Folder
  session : Session
  surface : Surface
  sheets : List Sheet
  editorOf : Mapping Nat Nat
  row : TabRow
  tabs : List Tab
  current : Int
  calls : List Call

namespace Window

def dimmer : Nat := 0

def place (call : Call) (window : Window) : Window := { window with calls := call :: window.calls }

/-- What a dimmer sees of a surface. Every pane shows a document of its own. -/
def stageOf (surface : Surface) : Stage :=
  { documents := surface.panes.map Pane.document
    editors := List.range surface.panes.length
    active := surface.active
    visible := surface.visiblePanes }

def carryOut (window : Window) (event : Event) : Except Fault Window :=
  match event with
  | .created _ style => .ok { window with surface := (window.surface.create style).1 }
  | .disposed handle => .ok { window with surface := window.surface.dispose handle }
  | .decorated editor handle ranges =>
      (window.surface.decorate editor handle ranges).map fun surface => { window with surface }
  | event =>
      let calls := Call.ofEvent window.configuration.notificationTimeout event
      .ok { window with calls := calls.reverse ++ window.calls }

/-- Lets the dimmer act on the surface as it is now. -/
def act (action : Action Unit) (window : Window) : Except Fault Window := do
  let before : Session := { window.session with stage := stageOf window.surface }
  let (result, after) := action.run before
  result
  (before.eventsSince after).foldlM carryOut { window with session := after }

def note (severity : Severity) (part text : Text) (window : Window) : Window :=
  { window with
    session := { window.session with logs := ⟨severity, part, text⟩ :: window.session.logs } }

def announce (window : Window) (notice : Notice) : Except Fault Window :=
  match notice with
  | .activeChanged editor => window.act (Action.announceActive editor)
  | .documentChanged document => window.act (Action.announceDocument document)

def move (window : Window) (result : Surface × List Notice) : Except Fault Window :=
  result.2.foldlM announce { window with surface := result.1 }

def tabAt? (window : Window) (index : Int) : Option Tab :=
  if 0 ≤ index then window.tabs[index.toNat]? else none

def selectTab (index : Int) (window : Window) : Except Fault Window :=
  let editor := (window.tabAt? index).bind fun tab => window.editorOf.get? tab.widget
  { window with current := index }.move (window.surface.setActive editor)

section Effects

variable (window : Window)

/-- Events are carried out as far as they can be. -/
def carried (events : List Event) : Window :=
  upToFault carryOut (fun window _ => window) window events

/-- The dimmer acts. What it has done is carried out even if it fails in the end. -/
def acted (action : Action Unit) : Window :=
  let before : Session := { window.session with stage := stageOf window.surface }
  let after := (action.run before).2
  carried { window with session := after } (before.eventsSince after)

def announced : Notice → Window
  | .activeChanged editor => window.acted (Action.announceActive editor)
  | .documentChanged document => window.acted (Action.announceDocument document)

/-- The surface has moved before anybody hears of it. -/
def moved (result : Surface × List Notice) : Window :=
  upToFault announce announced { window with surface := result.1 } result.2

def selected (index : Int) : Window :=
  let editor := (window.tabAt? index).bind fun tab => window.editorOf.get? tab.widget
  { window with current := index }.moved (window.surface.setActive editor)

/-- The row of tabs announces numbers. It does not pass on failures of those who hear of them. -/
def heard (indices : List Int) : Window := indices.foldl selected window

end Effects

def welcome : Text := "Open a source file to dim its log statements"

/-- A new window without tabs, over the settings on a disk and a folder of files. -/
def start (system : Text) (configuration : Configuration) (disk : Disk) (folder : Folder)
    (row : TabRow := .silent) : Except Fault Window :=
  let surface := Surface.ofPanes []
  let window : Window :=
    { system, configuration, folder, surface
      session := Session.start disk (stageOf surface)
      sheets := []
      editorOf := []
      row
      tabs := []
      current := -1
      calls := [.status welcome 0] }
  window.act (Action.activate dimmer)

/-- The text of a tab: the name at the end of a title, or all of a title without one. -/
def tabText (title : Text) : Text :=
  let name := (FilePath.ofText title).name
  if name.isEmpty then title else name

def withTab (window : Window) (text language title : Text) (fontSize : Int) : Window :=
  let number := window.surface.panes.length
  let pane := Pane.ofLines (Text.split '\n' text) language false
  { window with
    surface := { window.surface with panes := window.surface.panes ++ [pane] }.track number
    sheets := window.sheets ++ [Sheet.mk title fontSize false]
    editorOf := window.editorOf.put number number
    tabs := window.tabs ++ [Tab.mk number (tabText title) (title ++ " (" ++ language ++ ")")] }

def showLast (window : Window) : Window :=
  let shown := window.heard (window.row.whenOpened window.tabs.length window.current)
  { shown with current := window.tabs.length - 1 }

def openText (text language title : Text) (window : Window) : Except Fault (Nat × Window) := do
  let fontSize ← match FontSize.scaled window.system window.configuration.fontSize with
    | .ok size => .ok size
    | .error fault => .error (.number fault)
  let number := window.surface.panes.length
  let label : Text := if title.isEmpty then "untitled" else title
  let window := window.withTab text language title fontSize
  let window := window.note .debug "fonts" ("Editor font:  " ++ Text.ofInt fontSize ++ "pt")
  let window := window.note .debug "qt_host" ("Tracking editor for " ++ label)
  let opened := "Opened " ++ title ++ " as " ++ language
  return (number, window.showLast.note .info "main_window" opened)

def openFile (path : FilePath) (window : Window) : Except Fault (Option Nat × Window) :=
  match path.fault? with
  | some fault => .error fault
  | none =>
    match window.folder.readText path with
    | .ok text => do
        let (number, window) ← openText text (Language.ofPath path) path.toText window
        return (some number, window)
    | .error fault =>
        let failed := "Failed to open " ++ path.toText ++ ":"
        let reason := fault.message path
        let window := window.note .error "main_window" (failed ++ " " ++ reason)
        .ok (none, window.place (.message .critical "Error" (failed ++ "\n" ++ reason)))

def openFiles (paths : List FilePath) (window : Window) : Except Fault Window :=
  paths.foldlM (fun window path => (openFile path window).map (·.2)) window

def withoutTab (window : Window) (index : Int) (tab : Tab) : Window :=
  { window with
    editorOf := window.editorOf.without tab.widget
    tabs := window.tabs.eraseIdx index.toNat
    sheets := window.sheets.modify tab.widget fun sheet => { sheet with deleted := true } }

/-- Closes a tab, if there is one with that index. Its editor is no longer tracked once the row has
announced what is current now. -/
def closeTab (index : Int) (window : Window) : Except Fault Window :=
  match window.tabAt? index with
  | none => .ok window
  | some tab =>
      let taken := window.withoutTab index tab
      let closed := taken.heard (taken.row.whenClosed taken.tabs.length index window.current)
      match window.editorOf.get? tab.widget with
      | none => .ok closed
      | some editor => closed.move (closed.surface.untrack editor)

def finish (window : Window) : Except Fault Window := do
  let window ← window.act (Action.deactivate dimmer)
  return window.place .closed

end Window

end Dimming
