import Dimming.Json.Display

/-!
Values in records of the log: those of the data format, and foreign ones that only have a
text.
-/

set_option autoImplicit false

namespace Dimming

inductive LogValue where
  | json (value : Json)
  | foreign (text : Text)

namespace LogValue

def text : LogValue → Text
  | .json (.string text) => text
  | .json value => value.display
  | .foreign text => text

def toJson : LogValue → Json
  | .json value => value
  | .foreign text => .string text

/-- The most digits of a whole number that a text is made of. Arrays and objects are taken to be nested
less deeply than the limit that there is for writing them. -/
def digitLimit : Nat := 4300

/-- Whether a value has a text: no whole number in it has too many digits. -/
def isWritable (value : LogValue) : Bool := value.toJson.fits (some digitLimit)

/-- How a value is shown inside a list. -/
def display : LogValue → Text
  | .json value => value.display
  | .foreign text => text

def kind : LogValue → Text
  | .json .null => "NoneType"
  | .json (.bool _) => "bool"
  | .json (.number (.int _)) => "int"
  | .json (.number (.double _)) => "float"
  | .json (.string _) => "str"
  | .json (.array _) => "list"
  | .json (.object _) => "dict"
  | .foreign _ => "object"

/-- Whether a value counts as nothing: null, false, nought and whatever is empty. -/
def isNothing : LogValue → Bool
  | .json .null => true
  | .json (.bool value) => !value
  | .json (.number (.int value)) => value == 0
  | .json (.number (.double (.finite _ magnitude))) => magnitude.units == 0
  | .json (.number (.double _)) => false
  | .json (.string text) => text.isEmpty
  | .json (.array items) => items.isEmpty
  | .json (.object members) => members.isEmpty
  | .foreign _ => false

/-- The number that a value is; true and false are one and nought. -/
def number? : LogValue → Option Number
  | .json (.bool value) => some (.int (if value then 1 else 0))
  | .json (.number value) => some value
  | _ => none

end LogValue

end Dimming
