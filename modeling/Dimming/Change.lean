import Dimming.Text.Quoted

/-!
Changes of settings. Every setting lies in one section; a change affects a section or key
if a changed key is that or lies below it, keys being divided at points.
-/

set_option autoImplicit false

namespace Dimming

def sectionName : Text := "logdimmer"

/-- The full keys that one save changed. -/
structure Change where
  keys : List Text
deriving DecidableEq

namespace Change

def fullKey (key : Text) : Text := sectionName ++ "." ++ key

def ofKeys (keys : List Text) : Change := ⟨keys.map fullKey⟩

def affects (change : Change) (scope : Text) : Bool :=
  change.keys.any fun key => key = scope || (scope ++ ".").isPrefixOf key

def display (change : Change) : Text :=
  "ConfigurationChange([" ++ Text.join ", " (change.keys.map Text.quoted) ++ "])"

end Change

end Dimming
