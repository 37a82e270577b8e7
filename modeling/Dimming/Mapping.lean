/-!
Mappings that remember the order in which their keys came. A key that is set again keeps
its place, a new one goes to the end.
-/

set_option autoImplicit false

namespace Dimming

abbrev Mapping (Key Value : Type) := List (Key × Value)

namespace Mapping

variable {Key Value : Type} [DecidableEq Key]

def get? (key : Key) : Mapping Key Value → Option Value
  | [] => none
  | entry :: rest => if entry.1 = key then some entry.2 else get? key rest

def put (key : Key) (value : Value) : Mapping Key Value → Mapping Key Value
  | [] => [(key, value)]
  | entry :: rest =>
      if entry.1 = key then (key, value) :: rest else entry :: put key value rest

def without (key : Key) (mapping : Mapping Key Value) : Mapping Key Value :=
  mapping.filter fun entry => decide (entry.1 ≠ key)

/-- Sets the entries of a second mapping one after the other. -/
def override (mapping changes : Mapping Key Value) : Mapping Key Value :=
  changes.foldl (fun current entry => put entry.1 entry.2 current) mapping

/-- The mapping that a sequence of entries builds up: a repeated key counts by its last
value at its first place. -/
def ofEntries (entries : List (Key × Value)) : Mapping Key Value := override [] entries

end Mapping

end Dimming
