import Dimming.Text.CodePoint

/-!
Lines and columns of a text. A line ends behind a line feed, behind a carriage return that
no line feed follows, and nowhere else; offsets outside the text count as its nearest end.
-/

set_option autoImplicit false

namespace Dimming

/-- A line and a column, both counted from zero. Positions that come from outside may be
negative and then lie in no text. -/
structure Position where
  line : Int
  column : Int
deriving DecidableEq

namespace Position

def lt (left right : Position) : Bool :=
  decide (left.line < right.line) ||
    (decide (left.line = right.line) && decide (left.column < right.column))

def le (left right : Position) : Bool := left.lt right || decide (left = right)

end Position

/-- The length of a text and the offsets behind its line breaks, in order. -/
structure LineIndex where
  length : Nat
  breaks : List Nat

namespace LineIndex

/-- The offsets behind the line breaks of a text that begins at a given offset. -/
def breaksFrom : Nat → Text → List Nat
  | _, [] => []
  | offset, point :: rest =>
      let isBreak :=
        point = '\n' || (point = '\r' && rest.head? != some (CodePoint.ofChar '\n'))
      if isBreak then (offset + 1) :: breaksFrom (offset + 1) rest
      else breaksFrom (offset + 1) rest

def ofText (text : Text) : LineIndex := ⟨text.length, breaksFrom 0 text⟩

def lineCount (index : LineIndex) : Nat := index.breaks.length + 1

/-- An offset moved to the nearest end of the text if it lies outside. -/
def clamp (index : LineIndex) (offset : Int) : Nat := min offset.toNat index.length

def positionAt (index : LineIndex) (offset : Int) : Position :=
  let inside := index.clamp offset
  let passed := index.breaks.takeWhile (· ≤ inside)
  ⟨passed.length, (inside - passed.getLastD 0 : Nat)⟩

end LineIndex

end Dimming
