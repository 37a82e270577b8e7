import Dimming.Surface.Pane

/-!
The panes of a window, which of them are tracked, which one is active, and the decorations
that are drawn on them. Disposing of a decoration releases it, which clears it from the
panes that are tracked then. A tracked pane passes its changes on; it goes on doing so when
it is no longer tracked, and once more for each time that it is tracked again.
-/

set_option autoImplicit false

namespace Dimming

/-- Decorations are numbered from one in the order in which they were made. -/
structure Decoration where
  style : Style
  disposed : Bool
deriving DecidableEq

structure Surface where
  panes : List Pane
  tracked : List Nat
  active : Option Nat
  decorations : List Decoration
  live : List Nat

inductive Notice where
  | activeChanged (pane : Option Nat)
  | documentChanged (pane : Nat)
deriving DecidableEq

namespace Surface

def ofPanes (panes : List Pane) : Surface := ⟨panes, [], none, [], []⟩

def decoration? (surface : Surface) (number : Nat) : Option Decoration :=
  if number = 0 then none else surface.decorations[number - 1]?

def decorationName (number : Nat) : Text := "log-decoration-" ++ Text.ofNat number

def modifyPane (surface : Surface) (pane : Nat) (change : Pane → Pane) : Surface :=
  { surface with panes := surface.panes.modify pane change }

def visiblePanes (surface : Surface) : List Nat :=
  surface.tracked.filter fun pane => (surface.panes[pane]?.map (·.visible)).getD false

def track (surface : Surface) (pane : Nat) : Surface :=
  if surface.tracked.contains pane then surface
  else
    { surface with tracked := surface.tracked ++ [pane] }.modifyPane pane fun entry =>
      { entry with relays := entry.relays + 1 }

/-- Announces the active pane if it is another one than before. -/
def setActive (surface : Surface) (pane : Option Nat) : Surface × List Notice :=
  if surface.active = pane then (surface, [])
  else ({ surface with active := pane }, [.activeChanged pane])

def untrack (surface : Surface) (pane : Nat) : Surface × List Notice :=
  if surface.tracked.contains pane then
    let surface := { surface with tracked := surface.tracked.erase pane }
    if surface.active = some pane then surface.setActive none else (surface, [])
  else (surface, [])

def setVisible (surface : Surface) (pane : Nat) (visible : Bool) : Surface :=
  surface.modifyPane pane fun entry => { entry with visible }

/-- Makes a decoration of a style; its number is the second component. -/
def create (surface : Surface) (style : Style) : Surface × Nat :=
  let number := surface.decorations.length + 1
  ({ surface with
      decorations := surface.decorations ++ [⟨style, false⟩]
      live := surface.live ++ [number] },
    number)

/-- Forgets a decoration and clears it from every tracked pane. -/
def release (surface : Surface) (number : Nat) : Surface :=
  surface.tracked.foldl (fun current pane => current.modifyPane pane (·.clear number))
    { surface with live := surface.live.erase number }

def dispose (surface : Surface) (number : Nat) : Surface :=
  match surface.decoration? number with
  | none => surface
  | some decoration =>
      if decoration.disposed then surface
      else
        { surface with
          decorations := surface.decorations.modify (number - 1) fun entry =>
            { entry with disposed := true } }.release number

/-- Draws a decoration on a pane, unless it is disposed of. -/
def decorate (surface : Surface) (pane number : Nat) (ranges : List DisplayRange) :
    Except Fault Surface :=
  match surface.decoration? number with
  | none => .ok surface
  | some decoration =>
      if decoration.disposed then .ok surface
      else
        match TextFormat.ofStyle decoration.style with
        | .error fault => .error (.number fault)
        | .ok format =>
            match surface.panes[pane]?.bind (·.obstacle? ranges) with
            | some fault => .error fault
            | none => .ok (surface.modifyPane pane (·.decorate number format ranges))

def clear (surface : Surface) (pane number : Nat) : Surface :=
  surface.modifyPane pane (·.clear number)

/-- Replaces the lines of a pane, which announces it once for each relay. -/
def replaceLines (surface : Surface) (pane : Nat) (lines : List Text) : Surface × List Notice :=
  let relays := (surface.panes[pane]?.map (·.relays)).getD 0
  (surface.modifyPane pane fun entry => { entry with lines },
    List.replicate relays (.documentChanged pane))

end Surface

end Dimming
