import Dimming.Pattern.Basic

/-!
Stretches of a text that a pattern matches. The search for the next one begins where the
last one ended, one further on if that was empty, and sees the text in front of it.
-/

set_option autoImplicit false

namespace Dimming

/-- The offsets from a start up to, and without, a stop. -/
structure Span where
  start : Nat
  stop : Nat
deriving DecidableEq

namespace Span

/-- The first match that begins at an offset or later. The fuel counts the offsets that are
left to try. -/
def searchWithin (text : Array CodePoint) (pattern : Pattern) : Nat → Nat → Option Span
  | 0, _ => none
  | fuel + 1, offset =>
      match pattern.endAt? text offset with
      | some stop => some ⟨offset, stop⟩
      | none => searchWithin text pattern fuel (offset + 1)

def search? (text : Array CodePoint) (pattern : Pattern) (cursor : Nat) : Option Span :=
  searchWithin text pattern (text.size + 1 - cursor) cursor

/-- Where the search goes on behind a match: further on in any case. -/
def nextCursor (span : Span) : Nat := if span.start < span.stop then span.stop else span.stop + 1

/-- The matches from a cursor on, one search after the other. The fuel bounds their number. -/
def scanFrom (search : Nat → Option Span) (length : Nat) : Nat → Nat → List Span
  | 0, _ => []
  | fuel + 1, cursor =>
      if cursor ≤ length then
        match search cursor with
        | none => []
        | some span => span :: scanFrom search length fuel span.nextCursor
      else []

def scan (search : Nat → Option Span) (length : Nat) : List Span :=
  scanFrom search length (length + 1) 0

def findAll (text : Text) (pattern : Pattern) : List Span :=
  let points := text.toArray
  scan (search? points pattern) points.size

end Span

end Dimming
