import Dimming.Position
import Dimming.Span
import Dimming.Statement.Dialect
import Dimming.Text.Numeral

/-!
The log statements of a document: the matches of every shape in turn, each shape scanned
for itself, so that a stretch may be found more than once.
-/

set_option autoImplicit false

namespace Dimming

/-- A stretch of a document between two positions, the second one excluded. -/
structure DisplayRange where
  start : Position
  stop : Position
deriving DecidableEq

structure Document where
  text : Text
  language : Text
deriving DecidableEq

namespace Statement

/-- The matches in a text, shape by shape. -/
def spans (text language : Text) : List Span :=
  if text.isEmpty then [] else (Dialect.ofLanguage language).searched.flatMap (Span.findAll text)

def bounds (found : List Span) : List Nat := found.flatMap fun span => [span.start, span.stop]

def rangesBy (positionAt : Nat → Position) (found : List Span) : List DisplayRange :=
  found.map fun span => ⟨positionAt span.start, positionAt span.stop⟩

def ranges (text language : Text) : List DisplayRange :=
  let index := LineIndex.ofText text
  rangesBy (fun offset => index.positionAt offset) (spans text language)

def report (language : Text) (found : List DisplayRange) : Text :=
  if found.isEmpty then "No log statements found (" ++ language ++ ")"
  else "Found " ++ Text.ofNat found.length ++ " log statement ranges (" ++ language ++ ")"

end Statement

namespace Document

def statements (document : Document) : List DisplayRange :=
  Statement.ranges document.text document.language

end Document

end Dimming
