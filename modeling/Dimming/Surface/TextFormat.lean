import Dimming.Style

/-!
How a style is drawn on a text surface, and the size of the font of source code.
-/

set_option autoImplicit false

namespace Dimming

/-- The colour of drawn text: one of its own, or that of the surrounding text with another
alpha. -/
inductive Foreground where
  | channels (channels : Channels)
  | textAlpha (alpha : Number)
deriving DecidableEq

structure TextFormat where
  italic : Bool
  foreground : Option Foreground
deriving DecidableEq

namespace TextFormat

def clampOpacity (opacity : Number) : Number :=
  Number.min (Number.max opacity (.double (Double.ofInt 0))) (.double (Double.ofInt 1))

/-- A colour hides the opacity of a style. -/
def ofStyle (style : Style) : Except NumberFault TextFormat := do
  let channels ← style.channels
  let foreground := match channels with
    | some channels => some (Foreground.channels channels)
    | none => style.opacity.map fun opacity => Foreground.textAlpha (clampOpacity opacity)
  return ⟨decide (style.fontStyle = some Style.italic), foreground⟩

end TextFormat

namespace FontSize

/-- Points look smaller on the system named Darwin. -/
def multiplier (system : Text) : Double :=
  if system = "Darwin" then (Decimal.mk 13 (-1)).toDouble false else Double.ofInt 1

/-- A configured size on a system, without its fraction. -/
def scaled (system : Text) (size : Int) : Except NumberFault Int := do
  let size ← Number.doubleOfInt size
  Number.toWhole Double.truncate? (size * multiplier system)

end FontSize

end Dimming
