import Dimming.Prompt
import Dimming.Session.State

/-!
What a window asks of its surroundings: lines in the status bar, message boxes, dialogs, and
the calls that begin and end the program.
-/

set_option autoImplicit false

namespace Dimming

inductive MessageKind where
  | critical
  | warning
  | information
deriving DecidableEq

inductive Call where
  | status (text : Text) (timeout : Int)
  | message (kind : MessageKind) (title text : Text)
  | input (title prompt prefilled : Text)
  | item (title placeholder : Text) (labels : Nat)
  | chooseFiles (title : Text)
  | close
  | closed
  | reveal
  | passRoundingThrough
  | nameApplication (name : Text)
  | nameOrganization (name : Text)
  | execute
deriving DecidableEq

namespace Call

def opacityTitle : Text := "Log Opacity"

def colorTitle : Text := "Log Color"

def programTitle : Text := "LogDimmer"

/-- A refused answer is warned about, and the dialog comes again with it. -/
def ofRefusal (prompt answer : Text) (problem : Opacity.Problem) : List Call :=
  [.message .warning "Invalid Value" problem.message, .input opacityTitle prompt answer]

/-- A message goes to the status bar if there is one, which shows it for a while. -/
def ofMessage (statusTimeout : Option Int) (text : Text) : Call :=
  match statusTimeout with
  | some timeout => .status text timeout
  | none => .message .information programTitle text

def ofEvent (statusTimeout : Int) : Event → List Call
  | .asked prompt prefilled => [.input opacityTitle prompt prefilled]
  | .refused answer problem => ofRefusal Prompt.opacity answer problem
  | .offered placeholder choices => [.item colorTitle placeholder choices]
  | .told text => [ofMessage (some statusTimeout) text]
  | _ => []

end Call

end Dimming
