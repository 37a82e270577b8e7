import Dimming.Window.Basic

/-!
The menus of a window, and everything that can be done to one.
-/

set_option autoImplicit false

namespace Dimming

inductive MenuAction where
  | openFiles
  | closeTab
  | quit
  | changeOpacity
  | changeColor
  | toggle
deriving DecidableEq

namespace MenuAction

def label : MenuAction → Text
  | .openFiles => "&Open..."
  | .closeTab => "&Close Tab"
  | .quit => "&Quit"
  | .changeOpacity => "Change &Opacity..."
  | .changeColor => "Change &Color..."
  | .toggle => "&Toggle Dimming"

def shortcut : MenuAction → Option Text
  | .openFiles => some "open"
  | .closeTab => some "close"
  | .quit => some "quit"
  | _ => none

def menus : List (Text × List (Option MenuAction)) :=
  [("&File", [some .openFiles, some .closeTab, none, some .quit]),
    ("&Logs", [some .changeOpacity, some .changeColor, some .toggle])]

def all : List MenuAction := menus.flatMap fun menu => menu.2.filterMap id

def ofLabel? (label : Text) : Option MenuAction := all.find? (·.label = label)

end MenuAction

/-- What is done to a window. Dialogs that come up are answered from the given row, and
files to open are chosen from the given paths. -/
inductive WindowOperation where
  | openFile (path : Text)
  | openText (text language title : Text)
  | selectTab (index : Int)
  | closeTab (index : Int)
  | trigger (action : MenuAction) (dialogs : List Dialog) (paths : List Text)
  | setVisible (pane : Nat) (visible : Bool)
  | edit (pane : Nat) (lines : List Text)
  | finish

namespace Window

def trigger (dialogs : List Dialog) (paths : List Text) (window : Window) :
    MenuAction → Except Fault Window
  | .openFiles =>
      (window.place (.chooseFiles "Open Source Files")).openFiles (paths.map FilePath.ofText)
  | .closeTab => window.closeTab window.current
  | .quit => .ok (window.place .close)
  | .changeOpacity => window.act (Action.changeOpacity dimmer (Dialog.typing dialogs))
  | .changeColor => window.act (Action.changeColor dimmer (Dialog.pick Color.palette dialogs))
  | .toggle => window.act (Action.toggle dimmer)

/-- The number of a newly opened text, if the operation opens one, and the window after
it. -/
def step (window : Window) : WindowOperation → Except Fault (Option Nat × Window)
  | .openFile path => window.openFile (FilePath.ofText path)
  | .openText text language title =>
      (window.openText text language title).map fun (number, window) => (some number, window)
  | .selectTab index => (window.selectTab index).map fun window => (none, window)
  | .closeTab index => (window.closeTab index).map fun window => (none, window)
  | .trigger action dialogs paths =>
      (window.trigger dialogs paths action).map fun window => (none, window)
  | .setVisible pane visible =>
      .ok (none, { window with surface := window.surface.setVisible pane visible })
  | .edit pane lines =>
      (window.move (window.surface.replaceLines pane lines)).map fun window => (none, window)
  | .finish => window.finish.map fun window => (none, window)

/-- The numbers and windows of a run, unless one of its operations fails. -/
def run (window : Window) :
    List WindowOperation → Except Fault (List (Option Nat × Window))
  | [] => .ok []
  | operation :: operations => do
      let result ← window.step operation
      let results ← run result.2 operations
      return result :: results

/-- The calls of a later state that an earlier one has not seen, oldest first. -/
def callsSince (earlier later : Window) : List Call :=
  (later.calls.take (later.calls.length - earlier.calls.length)).reverse

end Window

end Dimming
