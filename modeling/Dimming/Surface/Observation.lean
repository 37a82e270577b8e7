import Dimming.Surface.Basic

/-!
Recorders that follow a surface. Each subscription connects a recorder of its own; a name
stands for the subscription that it was last used for.
-/

set_option autoImplicit false

namespace Dimming

inductive Topic where
  | active
  | document
deriving DecidableEq

structure Recorder where
  serial : Nat
  name : Text
  topic : Topic
deriving DecidableEq

/-- `recorders` are connected at the moment; `names` leads to the serial of a name. -/
structure Observed where
  surface : Surface
  recorders : List Recorder
  names : Mapping Text Nat
  nextSerial : Nat

structure Heard where
  recorder : Text
  notice : Notice
deriving DecidableEq

inductive SurfaceOperation where
  | track (pane : Nat)
  | untrack (pane : Nat)
  | setActive (pane : Option Nat)
  | setVisible (pane : Nat) (visible : Bool)
  | create (style : Style)
  | dispose (number : Nat)
  | release (number : Nat)
  | decorate (pane number : Nat) (ranges : List DisplayRange)
  | detect (pane number : Nat)
  | clear (pane number : Nat)
  | edit (pane : Nat) (lines : List Text)
  | subscribe (name : Text) (topic : Topic)
  | unsubscribe (name : Text)

namespace Notice

def topic : Notice → Topic
  | .activeChanged _ => .active
  | .documentChanged _ => .document

end Notice

namespace Observed

def ofPanes (panes : List Pane) : Observed := ⟨Surface.ofPanes panes, [], [], 0⟩

/-- Every notice reaches the recorders that follow its topic, in the order in which they
were connected. -/
def hear (observed : Observed) (notices : List Notice) : List Heard :=
  notices.flatMap fun notice =>
    (observed.recorders.filter fun recorder => recorder.topic = notice.topic).map fun recorder =>
      ⟨recorder.name, notice⟩

def subscribe (observed : Observed) (name : Text) (topic : Topic) : Observed :=
  let serial := observed.nextSerial
  { observed with
    recorders := observed.recorders ++ [⟨serial, name, topic⟩]
    names := observed.names.put name serial
    nextSerial := serial + 1 }

def unsubscribe (observed : Observed) (name : Text) : Observed :=
  match observed.names.get? name with
  | none => observed
  | some serial =>
      { observed with recorders := observed.recorders.filter fun entry => entry.serial ≠ serial }

structure Report where
  number : Option Nat
  heard : List Heard

def quietly (observed : Observed) (surface : Surface) : Report × Observed :=
  (⟨none, []⟩, { observed with surface })

def announcing (observed : Observed) (result : Surface × List Notice) : Report × Observed :=
  (⟨none, observed.hear result.2⟩, { observed with surface := result.1 })

def step (observed : Observed) : SurfaceOperation → Except Fault (Report × Observed)
  | .track pane => .ok (observed.quietly (observed.surface.track pane))
  | .untrack pane => .ok (observed.announcing (observed.surface.untrack pane))
  | .setActive pane => .ok (observed.announcing (observed.surface.setActive pane))
  | .setVisible pane visible => .ok (observed.quietly (observed.surface.setVisible pane visible))
  | .create style =>
      let (surface, number) := observed.surface.create style
      .ok (⟨some number, []⟩, { observed with surface })
  | .dispose number => .ok (observed.quietly (observed.surface.dispose number))
  | .release number => .ok (observed.quietly (observed.surface.release number))
  | .decorate pane number ranges =>
      (observed.surface.decorate pane number ranges).map observed.quietly
  | .detect pane number =>
      let ranges := (observed.surface.panes[pane]?.map fun entry => entry.document.statements)
      (observed.surface.decorate pane number (ranges.getD [])).map observed.quietly
  | .clear pane number => .ok (observed.quietly (observed.surface.clear pane number))
  | .edit pane lines => .ok (observed.announcing (observed.surface.replaceLines pane lines))
  | .subscribe name topic => .ok (⟨none, []⟩, observed.subscribe name topic)
  | .unsubscribe name => .ok (⟨none, []⟩, observed.unsubscribe name)

/-- The reports and states of a run, unless one of its operations fails. -/
def run (observed : Observed) :
    List SurfaceOperation → Except Fault (List (Report × Observed))
  | [] => .ok []
  | operation :: operations => do
      let result ← observed.step operation
      let results ← run result.2 operations
      return result :: results

end Observed

end Dimming
