import Dimming.Json.Basic
import Dimming.Text.Quoted

/-!
How a value is shown in a message: names in words, texts in quotation marks, items between
brackets and members between braces.
-/

set_option autoImplicit false

namespace Dimming

namespace Json

mutual

def display : Json → Text
  | .null => "None"
  | .bool value => if value then "True" else "False"
  | .number value => value.toText
  | .string value => value.quoted
  | .array [] => "[]"
  | .array (item :: items) => "[" ++ display item ++ displayItems items ++ "]"
  | .object [] => "\x7b\x7d"
  | .object ((key, value) :: members) =>
      "\x7b" ++ Text.quoted key ++ ": " ++ display value ++ displayMembers members ++ "\x7d"

def displayItems : List Json → Text
  | [] => []
  | item :: items => ", " ++ display item ++ displayItems items

def displayMembers : List (Text × Json) → Text
  | [] => []
  | (key, value) :: members =>
      ", " ++ Text.quoted key ++ ": " ++ display value ++ displayMembers members

end

end Json

end Dimming
