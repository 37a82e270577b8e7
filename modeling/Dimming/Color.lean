import Dimming.Json.Basic
import Dimming.Text.Digit

/-!
Colours of dimmed statements: six hexadecimal digits behind a number sign, or the word that
stands for the colour of the document itself, and the colours that are offered by name.
-/

set_option autoImplicit false

namespace Dimming

namespace Color

/-- The word for the document's own colour. -/
def ownColor : Text := "default"

def isHex : Text → Bool
  | [] => false
  | sign :: digits => sign = '#' && digits.length == 6 && digits.all CodePoint.isHexDigit

def isValidText (color : Text) : Bool := color = ownColor || isHex color

/-- A value that is no text is no colour. -/
def isValid : Json → Bool
  | .string color => isValidText color
  | _ => false

end Color

structure Choice where
  label : Text
  value : Text
deriving DecidableEq

namespace Color

def palette : List Choice :=
  [
    ⟨"🎨 Default", "default"⟩, ⟨"⬛ Grey", "#808080"⟩, ⟨"🟥 Red", "#FF0000"⟩,
    ⟨"🟩 Green", "#00FF00"⟩, ⟨"🟦 Blue", "#0000FF"⟩, ⟨"🟨 Yellow", "#FFFF00"⟩,
    ⟨"🟪 Purple", "#9B59B6"⟩, ⟨"🟧 Orange", "#FFA500"⟩, ⟨"🟫 Brown", "#8B4513"⟩,
    ⟨"🟦 Cyan", "#00FFFF"⟩, ⟨"🟪 Pink", "#FF69B4"⟩, ⟨"🟥 Crimson", "#DC143C"⟩,
    ⟨"🟩 Lime", "#32CD32"⟩, ⟨"🟦 Navy", "#000080"⟩, ⟨"🟨 Gold", "#FFD700"⟩,
    ⟨"🟪 Magenta", "#FF00FF"⟩, ⟨"🟧 Coral", "#FF7F50"⟩, ⟨"🟫 Chocolate", "#D2691E"⟩,
    ⟨"⬛ Silver", "#C0C0C0"⟩, ⟨"🟦 Teal", "#008080"⟩, ⟨"🟪 Lavender", "#E6E6FA"⟩,
    ⟨"🟥 Maroon", "#800000"⟩, ⟨"🟩 Olive", "#808000"⟩, ⟨"🟦 Indigo", "#4B0082"⟩,
    ⟨"🟨 Khaki", "#F0E68C"⟩, ⟨"🟪 Plum", "#DDA0DD"⟩, ⟨"🟧 Peach", "#FFDAB9"⟩,
    ⟨"🟫 Tan", "#D2B48C"⟩, ⟨"⬛ Charcoal", "#36454F"⟩, ⟨"🟦 Turquoise", "#40E0D0"⟩,
    ⟨"🟪 Orchid", "#DA70D6"⟩
  ]

/-- The name of the first entry with a value, or the value itself if it has none. -/
def label (color : Text) : Text :=
  match palette.find? (·.value = color) with
  | some entry => entry.label
  | none => color

end Color

end Dimming
