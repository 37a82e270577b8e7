import Dimming.Json.Basic
import Dimming.Text.Utf16

/-!
Writing of a value, in ASCII throughout. Settings are written one item a line, indented
by two blanks for each level; log lines are written on one line with a blank behind every
comma and colon. An empty array or object is closed at once.
-/

set_option autoImplicit false

namespace Dimming

namespace Json

def escapeUnits (point : CodePoint) : Text :=
  point.toUtf16.flatMap fun unit => "\\u" ++ Text.ofNatHex 4 unit

def escapePoint (point : CodePoint) : Text :=
  if point = '"' then "\\\""
  else if point = '\\' then "\\\\"
  else if point = '\n' then "\\n"
  else if point = '\r' then "\\r"
  else if point = '\t' then "\\t"
  else if point = '\x0c' then "\\f"
  else if point = '\x08' then "\\b"
  else if 0x20 ≤ point.value ∧ point.value ≤ 0x7e then [point]
  else escapeUnits point

def writeString (text : Text) : Text := "\"" ++ text.flatMap escapePoint ++ "\""

def writeDouble : Double → Text
  | .nan => "NaN"
  | .infinity negative => if negative then "-Infinity" else "Infinity"
  | .finite negative magnitude => (Double.finite negative magnitude).toText

def writeNumber : Number → Text
  | .int value => Text.ofInt value
  | .double value => writeDouble value

def newLine (level : Nat) : Text := "\n" ++ List.replicate (2 * level) (CodePoint.ofChar ' ')

/-- How the items of a value are set apart: what stands at the edges of the brackets, and what
stands behind a comma, on a given level. -/
structure Layout where
  edge : Nat → Text
  gap : Nat → Text
  edgeBlank : ∀ level, (edge level).all isGap = true
  gapBlank : ∀ level, (gap level).all isGap = true

namespace Layout

theorem new_line_blank (level : Nat) : (newLine level).all isGap = true := by
  unfold newLine
  rw [List.all_append, List.all_replicate]
  have lineFeed : (Text.ofString "\n").all isGap = true := by decide
  have space : isGap ' ' = true := by decide
  simp [lineFeed, space]

def indented : Layout := ⟨newLine, newLine, new_line_blank, new_line_blank⟩

def oneLine : Layout := ⟨fun _ => [], fun _ => " ", fun _ => rfl, fun _ => by decide⟩

end Layout

mutual

def writeIn (layout : Layout) (level : Nat) : Json → Text
  | .null => "null"
  | .bool value => if value then "true" else "false"
  | .number value => writeNumber value
  | .string value => writeString value
  | .array [] => "[]"
  | .array (item :: items) =>
      "[" ++ layout.edge (level + 1) ++ writeIn layout (level + 1) item ++
        writeItems layout (level + 1) items ++ layout.edge level ++ "]"
  | .object [] => "\x7b\x7d"
  | .object ((key, value) :: members) =>
      "\x7b" ++ layout.edge (level + 1) ++ writeString key ++ ": " ++
        writeIn layout (level + 1) value ++ writeMembers layout (level + 1) members ++
        layout.edge level ++ "\x7d"

def writeItems (layout : Layout) (level : Nat) : List Json → Text
  | [] => []
  | item :: items =>
      "," ++ layout.gap level ++ writeIn layout level item ++ writeItems layout level items

def writeMembers (layout : Layout) (level : Nat) : List (Text × Json) → Text
  | [] => []
  | (key, value) :: members =>
      "," ++ layout.gap level ++ writeString key ++ ": " ++ writeIn layout level value ++
        writeMembers layout level members

end

def writeIndented (value : Json) : Text := writeIn .indented 0 value

def write (value : Json) : Text := writeIn .oneLine 0 value

section BreakingOff

variable (limit : Option Nat) (layout : Layout)

mutual

/-- What is written of a value before a whole number in it turns out to be too long. What leads to
an item of an array is written together with it, unless the item is an array or object itself. -/
def writePart (level : Nat) (lead : Text) : Json → Text
  | .array items =>
      lead ++ writeItemsPart (level + 1) ("[" ++ layout.edge (level + 1)) items
  | .object members =>
      lead ++ writeMembersPart (level + 1) ("\x7b" ++ layout.edge (level + 1)) members
  | _ => []

def writeItemsPart (level : Nat) (lead : Text) : List Json → Text
  | [] => []
  | item :: items =>
      if item.fits limit then
        lead ++ writeIn layout level item ++ writeItemsPart level ("," ++ layout.gap level) items
      else writePart level lead item

def writeMembersPart (level : Nat) (lead : Text) : List (Text × Json) → Text
  | [] => []
  | (key, value) :: members =>
      lead ++ writeString key ++ ": " ++
        if value.fits limit then
          writeIn layout level value ++ writeMembersPart level ("," ++ layout.gap level) members
        else writePart level [] value

end

end BreakingOff

end Json

end Dimming
