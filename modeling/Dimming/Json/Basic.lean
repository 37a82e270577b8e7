import Dimming.Number.Basic

/-!
Values of the data format in which settings are kept. Members of an object stand in the
order in which they were first named.
-/

set_option autoImplicit false

namespace Dimming

inductive Json where
  | null
  | bool (value : Bool)
  | number (value : Number)
  | string (value : Text)
  | array (items : List Json)
  | object (members : List (Text × Json))

namespace Json

instance : Inhabited Json := ⟨.null⟩

instance : Coe Text Json := ⟨.string⟩

instance : Coe Number Json := ⟨.number⟩

def ofInt (value : Int) : Json := .number (.int value)

def ofNat (value : Nat) : Json := .number (.int value)

def isGap (point : CodePoint) : Bool :=
  point = ' ' || point = '\t' || point = '\n' || point = '\r'

/-- A value that may be missing, which null stands for. -/
def ofOption {Value : Type} (toJson : Value → Json) : Option Value → Json
  | none => .null
  | some value => toJson value

mutual

/-- Whether no whole number in a value has more digits than a limit allows. -/
def fits (limit : Option Nat) : Json → Bool
  | .number value => value.fits limit
  | .array items => itemsFit limit items
  | .object members => membersFit limit members
  | _ => true

def itemsFit (limit : Option Nat) : List Json → Bool
  | [] => true
  | item :: items => fits limit item && itemsFit limit items

def membersFit (limit : Option Nat) : List (Text × Json) → Bool
  | [] => true
  | (_, value) :: members => fits limit value && membersFit limit members

end

end Json

end Dimming
