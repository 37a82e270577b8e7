import Dimming.Proofs.Fault
import Dimming.Proofs.Surface.Drawing
import Dimming.Window.Operation

/-!
# What operations lead to in a window

An operation that fails leaves what it has done up to then: another editor is active before the
dimmer draws on it, and files are opened one after the other. So every operation leads from one
window to another, given here as a function of the one before. Whatever the dimmer does on the way,
it leaves the ledger of the window alone: which tabs are open, where they lead, which one is active.
-/

set_option autoImplicit false

namespace Dimming

namespace Window

section Effects

variable (window : Window)

/-- What comes of something that may fail, and leaves a window as given if it does. -/
def settled (left : Window) : Except Fault Window → Window
  | .ok later => later
  | .error _ => left

/-- A text is shown in a new tab, or nothing is done as its font has no size. -/
def withText (text language title : Text) : Window :=
  settled window ((window.openText text language title).map (·.2))

def withFile (path : FilePath) : Window := settled window ((window.openFile path).map (·.2))

def withFiles (paths : List FilePath) : Window :=
  upToFault (fun window path => (openFile path window).map (·.2)) (fun window _ => window) window
    paths

def closed (index : Int) : Window :=
  match window.tabAt? index with
  | none => window
  | some tab =>
      let taken := window.withoutTab index tab
      let closed := taken.heard (taken.row.whenClosed taken.tabs.length index window.current)
      match window.editorOf.get? tab.widget with
      | none => closed
      | some editor => closed.moved (closed.surface.untrack editor)

def triggered (dialogs : List Dialog) (paths : List Text) : MenuAction → Window
  | .openFiles =>
      (window.place (.chooseFiles "Open Source Files")).withFiles (paths.map FilePath.ofText)
  | .closeTab => window.closed window.current
  | .quit => window.place .close
  | .changeOpacity => window.acted (Action.changeOpacity dimmer (Dialog.typing dialogs))
  | .changeColor => window.acted (Action.changeColor dimmer (Dialog.pick Color.palette dialogs))
  | .toggle => window.acted (Action.toggle dimmer)

def finished : Window := settled (window.acted (Action.deactivate dimmer)) window.finish

/-- What an operation leads to, whether it fails or not. -/
def after : WindowOperation → Window
  | .openFile path => window.withFile (FilePath.ofText path)
  | .openText text language title => window.withText text language title
  | .selectTab index => window.selected index
  | .closeTab index => window.closed index
  | .trigger action dialogs paths => window.triggered dialogs paths action
  | .setVisible pane visible => { window with surface := window.surface.setVisible pane visible }
  | .edit pane lines => window.moved (window.surface.replaceLines pane lines)
  | .finish => window.finished

def through (operations : List WindowOperation) : Window := operations.foldl after window

end Effects

/-- Where a window keeps its tabs and editors. -/
structure Ledger where
  tabs : List Tab
  editorOf : Mapping Nat Nat
  sheets : List Sheet
  tracked : List Nat
  active : Option Nat
  panes : Nat

def ledger (window : Window) : Ledger :=
  { tabs := window.tabs
    editorOf := window.editorOf
    sheets := window.sheets
    tracked := window.surface.tracked
    active := window.surface.active
    panes := window.surface.panes.length }

variable {window later : Window}

theorem ledger_of_outline {tracked : List Nat} {active : Option Nat} {panes : Nat}
    (outline : window.surface.outline = (tracked, active, panes)) :
    window.ledger =
      { tabs := window.tabs, editorOf := window.editorOf, sheets := window.sheets, tracked, active,
        panes } := by
  cases outline
  rfl

theorem ledger_of_same_outline {surface : Surface}
    (same : surface.outline = window.surface.outline) :
    { window with surface }.ledger = window.ledger :=
  ledger_of_outline same

section Succeeding

theorem acted_of_ok {action : Action Unit} (fine : window.act action = .ok later) :
    window.acted action = later := by
  unfold act at fine
  unfold acted carried
  dsimp only at fine ⊢
  cases ran : action.run { window.session with stage := stageOf window.surface } with
  | mk result after =>
      rw [ran] at fine
      cases result with
      | error fault => cases fine
      | ok done => exact up_to_fault_of_ok fine

theorem act_of_run {action : Action Unit} {after : Session}
    (ran : action.run { window.session with stage := stageOf window.surface } = (.ok (), after)) :
    window.act action =
      (Session.eventsSince { window.session with stage := stageOf window.surface } after).foldlM
        carryOut { window with session := after } := by
  unfold act
  dsimp only
  rw [ran]
  rfl

theorem announced_of_ok {notice : Notice} (fine : window.announce notice = .ok later) :
    window.announced notice = later := by
  cases notice <;> exact acted_of_ok fine

theorem moved_of_ok {result : Surface × List Notice} (fine : window.move result = .ok later) :
    window.moved result = later :=
  up_to_fault_of_ok fine

theorem selected_of_ok {index : Int} (fine : window.selectTab index = .ok later) :
    window.selected index = later :=
  moved_of_ok fine

theorem closed_of_ok {index : Int} (fine : window.closeTab index = .ok later) :
    window.closed index = later := by
  unfold closeTab at fine
  unfold closed
  revert fine
  cases window.tabAt? index with
  | none =>
      intro fine
      cases fine
      rfl
  | some tab =>
      dsimp only
      cases window.editorOf.get? tab.widget with
      | none =>
          intro fine
          cases fine
          rfl
      | some editor => exact moved_of_ok

theorem triggered_of_ok {dialogs : List Dialog} {paths : List Text} {action : MenuAction}
    (fine : window.trigger dialogs paths action = .ok later) :
    window.triggered dialogs paths action = later := by
  cases action with
  | openFiles => exact up_to_fault_of_ok fine
  | closeTab => exact closed_of_ok fine
  | quit =>
      cases fine
      rfl
  | changeOpacity | changeColor | toggle => exact acted_of_ok fine

theorem after_of_step {operation : WindowOperation} {number : Option Nat}
    (stepped : window.step operation = .ok (number, later)) : window.after operation = later := by
  have given {result : Except Fault Window}
      (mapped : (result.map fun window => ((none : Option Nat), window)) = .ok (number, later)) :
      result = .ok later := by
    obtain ⟨other, found, same⟩ := map_ok mapped
    cases same
    exact found
  cases operation with
  | openFile path =>
      change settled window ((window.step (.openFile path)).map (·.2)) = later
      rw [stepped]
      rfl
  | openText text language title =>
      obtain ⟨result, found, same⟩ := map_ok stepped
      cases same
      change settled window ((window.openText text language title).map (·.2)) = _
      rw [found]
      rfl
  | selectTab index => exact selected_of_ok (given stepped)
  | closeTab index => exact closed_of_ok (given stepped)
  | trigger action dialogs paths => exact triggered_of_ok (given stepped)
  | setVisible pane visible =>
      cases stepped
      rfl
  | edit pane lines => exact moved_of_ok (given stepped)
  | finish =>
      change window.finished = later
      rw [finished, given stepped]
      rfl

theorem scanl_after_of_run {operations : List WindowOperation}
    {results : List (Option Nat × Window)} (ran : window.run operations = .ok results) :
    window :: results.map (·.2) = operations.scanl after window := by
  induction operations generalizing window results with
  | nil =>
      cases ran
      rfl
  | cons operation operations ih =>
      obtain ⟨result, stepped, ran⟩ := bind_ok ran
      obtain ⟨others, rest, same⟩ := bind_ok ran
      cases same
      rw [List.map_cons, List.scanl_cons, after_of_step stepped, ih rest]

end Succeeding

section Frame

theorem carry_out_ledger {event : Event} (ok : window.carryOut event = .ok later) :
    later.ledger = window.ledger := by
  unfold carryOut at ok
  split at ok
  next =>
      cases ok
      rfl
  next handle =>
      cases ok
      exact ledger_of_same_outline (Surface.dispose_outline window.surface handle)
  next =>
      obtain ⟨drawn, decorated, same⟩ := map_ok ok
      cases same
      exact ledger_of_same_outline (Surface.decorate_outline decorated)
  next =>
      cases ok
      rfl

theorem carried_ledger (window : Window) (events : List Event) :
    (window.carried events).ledger = window.ledger := by
  apply up_to_fault_keeps fun later : Window => later.ledger = window.ledger
  · exact fun ok held => (carry_out_ledger ok).trans held
  · exact fun _ held => held
  · rfl

theorem acted_ledger (window : Window) (action : Action Unit) :
    (window.acted action).ledger = window.ledger :=
  carried_ledger _ _

theorem announced_ledger (window : Window) (notice : Notice) :
    (window.announced notice).ledger = window.ledger := by
  cases notice <;> exact window.acted_ledger _

theorem moved_ledger (window : Window) (result : Surface × List Notice) :
    (window.moved result).ledger = { window with surface := result.1 }.ledger := by
  let placed : Window := { window with surface := result.1 }
  change (upToFault announce announced placed result.2).ledger = placed.ledger
  apply up_to_fault_keeps fun later : Window => later.ledger = placed.ledger
  · intro state notice later ok held
    rw [← announced_of_ok ok, announced_ledger]
    exact held
  · intro state notice held
    rw [announced_ledger]
    exact held
  · rfl

theorem finished_ledger (window : Window) : window.finished.ledger = window.ledger := by
  unfold finished
  cases finished : window.finish with
  | error fault => exact window.acted_ledger _
  | ok later =>
      obtain ⟨between, acted, same⟩ := bind_ok finished
      cases same
      change between.ledger = window.ledger
      rw [← acted_of_ok acted, acted_ledger]

end Frame

end Window

end Dimming
