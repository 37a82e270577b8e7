import Dimming.Color
import Dimming.Opacity

/-!
Questions to the user: for an opacity, until one is accepted or the user gives up, and for
a colour from a list.
-/

set_option autoImplicit false

namespace Dimming

namespace Prompt

def opacity : Text := "Enter opacity value (0 = invisible, 100 = normal)"

def color : Text := "Select a color for logs"

end Prompt

/-- What a user types when asked for an opacity, one attempt after the other until one is
accepted. An unchecked prompt accepts the first. -/
structure Typing where
  attempts : List Text
  checked : Bool

namespace Typing

def problem? (checked : Bool) (attempt : Text) : Option Opacity.Problem :=
  if checked then Opacity.problem? attempt else none

def refusedAmong (checked : Bool) : List Text → List (Text × Opacity.Problem)
  | [] => []
  | attempt :: attempts =>
      match problem? checked attempt with
      | none => []
      | some problem => (attempt, problem) :: refusedAmong checked attempts

def refused (typing : Typing) : List (Text × Opacity.Problem) :=
  refusedAmong typing.checked typing.attempts

def accepted (typing : Typing) : Option Text :=
  typing.attempts.find? fun attempt => (problem? typing.checked attempt).isNone

end Typing

structure Dialog where
  text : Text
  confirmed : Bool

namespace Dialog

/-- The attempts in a row of dialogs end with the first that is not confirmed. -/
def typing (dialogs : List Dialog) : Typing :=
  ⟨(dialogs.takeWhile (·.confirmed)).map (·.text), true⟩

/-- The first choice with the label that the first dialog confirms. -/
def pick (choices : List Choice) : List Dialog → Option Choice
  | [] => none
  | dialog :: _ =>
      if dialog.confirmed then choices.find? (·.label = dialog.text) else none

end Dialog

end Dimming
