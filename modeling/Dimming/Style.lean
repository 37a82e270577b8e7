import Dimming.Number.Hexadecimal
import Dimming.Opacity
import Dimming.Text.Quoted

/-!
How dimmed statements look. A style either replaces the colour of the text by a translucent
one or keeps it and lowers its opacity.
-/

set_option autoImplicit false

namespace Dimming

/-- The colour carries its alpha channel in two digits behind the others; the opacity is a
fraction of one and applies to the document's own colour. -/
structure Style where
  color : Option Text
  opacity : Option Number
  fontStyle : Option Text
deriving DecidableEq

structure Channels where
  red : Int
  green : Int
  blue : Int
  alpha : Int
deriving DecidableEq

namespace Style

def italic : Text := "italic"

def opacityOnly (opacity : Number) : Except NumberFault Style :=
  (opacity.divNat 100).map fun fraction => ⟨none, some (.double fraction), some italic⟩

def colored (color : Text) (opacity : Number) : Except NumberFault Style :=
  (Opacity.alphaHex opacity).map fun alpha => ⟨some (color ++ alpha), none, some italic⟩

/-- Reads two digits each, beginning behind all number signs. Without two digits for it the
alpha channel is full. -/
def readChannels (color : Text) : Except NumberFault Channels := do
  let digits := color.dropWhile (CodePoint.is '#')
  let red ← Hexadecimal.read (digits.take 2)
  let green ← Hexadecimal.read ((digits.drop 2).take 2)
  let blue ← Hexadecimal.read ((digits.drop 4).take 2)
  let alpha ← if 8 ≤ digits.length then Hexadecimal.read ((digits.drop 6).take 2) else .ok 255
  return ⟨red, green, blue, alpha⟩

def channels (style : Style) : Except NumberFault (Option Channels) :=
  match style.color with
  | none => .ok none
  | some color => (readChannels color).map some

def display (style : Style) : Text :=
  let shown (part : Option Text) : Text := part.getD "None"
  "DecorationStyle(color=" ++ shown (style.color.map Text.quoted) ++ ", opacity=" ++
    shown (style.opacity.map Number.toText) ++ ", font_style=" ++
    shown (style.fontStyle.map Text.quoted) ++ ")"

end Style

end Dimming
