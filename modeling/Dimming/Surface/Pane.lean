import Dimming.Fault
import Dimming.Mapping
import Dimming.Statement.Detection
import Dimming.Surface.TextFormat
import Dimming.Text.Utf16

/-!
A pane shows one document, kept as lines, and draws selections over it. Places in a pane
count sixteen-bit units, with one unit between two lines; behind a surrogate that stands
alone in its line there is no place to draw. Selections are grouped by the
decoration they belong to. That they stay where they are when the lines change is a
simplification: the text widget's own cursors would move with what is typed in front of them.
-/

set_option autoImplicit false

namespace Dimming

/-- A drawn stretch, in the direction in which it was set. -/
structure Selection where
  anchor : Nat
  position : Nat
  format : TextFormat
deriving DecidableEq

namespace Selection

def start (selection : Selection) : Nat := min selection.anchor selection.position

def stop (selection : Selection) : Nat := max selection.anchor selection.position

end Selection

/-- `relays` counts how often the pane's changes are passed on to the window; `shown` is
what is drawn at the moment. -/
structure Pane where
  lines : List Text
  language : Text
  visible : Bool
  relays : Nat
  groups : Mapping Nat (List Selection)
  shown : List Selection

namespace Pane

def ofLines (lines : List Text) (language : Text) (visible : Bool) : Pane :=
  ⟨lines, language, visible, 0, [], []⟩

def text (pane : Pane) : Text := Text.join "\n" pane.lines

def document (pane : Pane) : Document := ⟨pane.text, pane.language⟩

/-- The units of some lines, each with the one that ends it. -/
def unitsOf (lines : List Text) : Nat :=
  lines.foldr (fun line units => line.utf16Length + 1 + units) 0

/-- The beginning of a line up to a column; a negative column counts from the end. -/
def upTo (line : Text) (column : Int) : Text :=
  if 0 ≤ column then line.take column.toNat else line.take (line.length - (-column).toNat)

def line? (pane : Pane) (line : Int) : Option Text :=
  if 0 ≤ line then pane.lines[line.toNat]? else none

/-- The place of a position. Lines that do not exist lie at the end. -/
def placeOf (pane : Pane) (position : Position) : Nat :=
  match pane.line? position.line with
  | some line =>
      unitsOf (pane.lines.take position.line.toNat) + (upTo line position.column).utf16Length
  | none => unitsOf pane.lines - 1

/-- Why the units in front of a position cannot be counted: a surrogate stands alone there. -/
def obstacleAt? (pane : Pane) (position : Position) : Option Fault := do
  let before := upTo (← pane.line? position.line) position.column
  let offset ← before.findIdx? CodePoint.isSurrogate
  return .notEncodable "utf-16-le" [← before[offset]?] offset

def obstacle? (pane : Pane) (ranges : List DisplayRange) : Option Fault :=
  ranges.findSome? fun range =>
    (pane.obstacleAt? range.start).or (pane.obstacleAt? range.stop)

def select (pane : Pane) (format : TextFormat) (range : DisplayRange) : Selection :=
  ⟨pane.placeOf range.start, pane.placeOf range.stop, format⟩

def redraw (pane : Pane) : Pane := { pane with shown := pane.groups.flatMap (·.2) }

def decorate (pane : Pane) (decoration : Nat) (format : TextFormat)
    (ranges : List DisplayRange) : Pane :=
  redraw { pane with groups := pane.groups.put decoration (ranges.map (pane.select format)) }

def clear (pane : Pane) (decoration : Nat) : Pane :=
  match pane.groups.get? decoration with
  | none => pane
  | some _ => redraw { pane with groups := pane.groups.without decoration }

def spansOf (pane : Pane) (decoration : Nat) : List (Nat × Nat) :=
  ((pane.groups.get? decoration).getD []).map fun selection => (selection.start, selection.stop)

end Pane

end Dimming
