/-!
Text as a sequence of code points. A surrogate may stand alone, which a character
cannot, so text read from an escape such as `\ud800` keeps it. Nothing is claimed
about normalisation: two texts are equal when their code points are.
-/

set_option autoImplicit false

namespace Dimming

/-- A number below 0x110000, the surrogates included. -/
structure CodePoint where
  value : Nat
  value_lt : value < 0x110000
deriving DecidableEq

namespace CodePoint

theorem toNat_lt (character : Char) : character.toNat < 0x110000 := by
  have valid := character.valid
  simp only [UInt32.isValidChar, Nat.isValidChar] at valid
  simp only [Char.toNat]
  omega

def ofChar (character : Char) : CodePoint := ⟨character.toNat, toNat_lt character⟩

def ofNat? (value : Nat) : Option CodePoint :=
  if inside : value < 0x110000 then some ⟨value, inside⟩ else none

instance : Coe Char CodePoint := ⟨ofChar⟩

instance : Inhabited CodePoint := ⟨⟨0, by decide⟩⟩

def is (character : Char) (point : CodePoint) : Bool := point = ofChar character

def isHighSurrogate (point : CodePoint) : Bool :=
  decide (0xD800 ≤ point.value ∧ point.value < 0xDC00)

def isLowSurrogate (point : CodePoint) : Bool :=
  decide (0xDC00 ≤ point.value ∧ point.value < 0xE000)

def isSurrogate (point : CodePoint) : Bool := point.isHighSurrogate || point.isLowSurrogate

def joinSurrogates? (high low : CodePoint) : Option CodePoint :=
  if high.isHighSurrogate && low.isLowSurrogate then
    ofNat? (0x10000 + (high.value - 0xD800) * 0x400 + (low.value - 0xDC00))
  else none

def isAsciiDigit (point : CodePoint) : Bool := decide (48 ≤ point.value ∧ point.value ≤ 57)

def isAsciiUpper (point : CodePoint) : Bool := decide (65 ≤ point.value ∧ point.value ≤ 90)

def isAsciiLower (point : CodePoint) : Bool := decide (97 ≤ point.value ∧ point.value ≤ 122)

def isAsciiWord (point : CodePoint) : Bool :=
  point.isAsciiDigit || point.isAsciiUpper || point.isAsciiLower || decide (point.value = 95)

/-- The six ASCII blanks: tab, line feed, vertical tab, form feed, return and space. -/
def isAsciiBlank (point : CodePoint) : Bool :=
  decide (9 ≤ point.value ∧ point.value ≤ 13) || decide (point.value = 32)

/-- Lowers A to Z and leaves every other code point alone. -/
def toAsciiLower (point : CodePoint) : CodePoint :=
  if upper : 65 ≤ point.value ∧ point.value ≤ 90 then ⟨point.value + 32, by omega⟩ else point

end CodePoint

abbrev Text := List CodePoint

namespace Text

def ofString (characters : String) : Text := characters.toList.map CodePoint.ofChar

instance : Coe String Text := ⟨ofString⟩

def toAsciiLower (text : Text) : Text := text.map CodePoint.toAsciiLower

/-- The pieces between occurrences of a separator: one more than there are separators. -/
def split (separator : CodePoint) : Text → List Text
  | [] => [[]]
  | point :: rest =>
      match split separator rest with
      | [] => [[point]]
      | piece :: pieces =>
          if point = separator then [] :: piece :: pieces else (point :: piece) :: pieces

def join (separator : Text) (pieces : List Text) : Text := separator.intercalate pieces

def padLeft (width : Nat) (filler : CodePoint) (text : Text) : Text :=
  List.replicate (width - text.length) filler ++ text

end Text

end Dimming
