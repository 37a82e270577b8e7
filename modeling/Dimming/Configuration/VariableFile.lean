import Dimming.Configuration.Reference
import Dimming.Mapping
import Dimming.Pattern.Basic
import Dimming.Text.Blank
import Dimming.Text.Lines

/-!
Files of variables, one `NAME=value` a line, perhaps behind a byte order mark. The word
`export` may stand in front; a number sign begins a comment at the beginning of a line or
behind a blank; values may be quoted, and inside quotes a backslash escapes. Values may
refer to other variables. A name without a value is kept as such. A line that fits no form
is skipped.
-/

set_option autoImplicit false

namespace Dimming

namespace VariableFile

open Pattern

def gap : Pattern := .repeated (.one fun point => point.isBlank && !point.is '\n')

def lineEnd : Pattern := .choice (literal "\n") (.condition fun _ after => after.isNone)

def restOfLine : Pattern := .repeated (noneOf "\n")

def comment : Pattern := optional (inOrder [gap, literal "#", restOfLine])

def exportWord : Pattern :=
  optional
    (.sequence (literal "export") (oneOrMore (.one fun point => point.isBlank && !point.is '\n')))

def bareName : Pattern :=
  oneOrMore (.one fun point => !point.isBlank && !point.is '=' && !point.is '#')

def quotedName : Pattern := inOrder [literal "'", oneOrMore (noneOf "'"), literal "'"]

def escape : Pattern := .sequence (literal "\\") (.one fun _ => true)

/-- A quoted value. A quote that is escaped does not end it. -/
def quotedValue (quote : Text) : Pattern :=
  inOrder [literal quote, .repeated (.choice escape (noneOf ("\\" ++ quote))), literal quote]

/-- The end of a part that begins at an offset, or the offset where it is missing. -/
def part (text : Array CodePoint) (pattern : Pattern) (offset : Nat) : Except Nat Nat :=
  match pattern.endAt? text offset with
  | some stop => .ok stop
  | none => .error offset

def between (text : Array CodePoint) (start stop : Nat) : Text := (text.extract start stop).toList

def escaped? (double : Bool) (mark : CodePoint) : Option CodePoint :=
  if mark = '\\' ∨ mark = '\'' then some mark
  else if !double then none
  else if mark = '"' then some mark
  else if mark = 'a' then some '\x07'
  else if mark = 'b' then some '\x08'
  else if mark = 'f' then some '\x0c'
  else if mark = 'n' then some '\n'
  else if mark = 'r' then some '\r'
  else if mark = 't' then some '\t'
  else if mark = 'v' then some '\x0b'
  else none

def unescape (double : Bool) : Text → Text
  | [] => []
  | [point] => [point]
  | point :: mark :: rest =>
      if point = '\\' then
        match escaped? double mark with
        | some meant => meant :: unescape double rest
        | none => point :: unescape double (mark :: rest)
      else point :: unescape double (mark :: rest)

/-- Cuts a bare value at the first number sign that blanks stand in front of. -/
def cutComment : Text → Text
  | [] => []
  | point :: rest =>
      let behind := (point :: rest).dropWhile CodePoint.isBlank
      if point.isBlank && behind.head? == some (CodePoint.ofChar '#') then []
      else point :: cutComment rest

/-- Reads a value behind its equals sign and the offset behind it, or fails at an offset. A
bare value may be missing in front of a comment. -/
def readValue (text : Array CodePoint) (offset : Nat) : Except Nat (Text × Nat) := do
  let start ← part text gap offset
  match text[start]? with
  | none => return ([], start)
  | some point =>
      if point = '\n' then return ([], start)
      else if point = '\'' then
        let stop ← part text (quotedValue "'") start
        return (unescape false (between text (start + 1) (stop - 1)), stop)
      else if point = '"' then
        let stop ← part text (quotedValue "\"") start
        return (unescape true (between text (start + 1) (stop - 1)), stop)
      else
        let stop ← part text restOfLine start
        return ((cutComment (between text offset stop)).trimBlanks, stop)

def readName (text : Array CodePoint) (offset : Nat) : Except Nat (Option Text × Nat) := do
  match text[offset]? with
  | none => .error offset
  | some point =>
      if point = '#' then return (none, offset)
      else if point = '\'' then
        let stop ← part text quotedName offset
        return (some (between text (offset + 1) (stop - 1)), stop)
      else
        let stop ← part text bareName offset
        return (some (between text offset stop), stop)

/-- A name and its value, either of which may be missing. -/
structure Line where
  name : Option Text
  value : Option Text

def readLine (text : Array CodePoint) (offset : Nat) : Except Nat (Line × Nat) := do
  let offset ← part text exportWord offset
  let (name, offset) ← readName text offset
  let offset ← part text gap offset
  let (value, offset) ←
    if text[offset]? = some (CodePoint.ofChar '=') then do
      let (value, offset) ← readValue text (offset + 1)
      pure (some value, offset)
    else pure (none, offset)
  let offset ← part text comment offset
  let offset ← part text (.sequence gap lineEnd) offset
  return (⟨name, value⟩, offset)

/-- Reads line after line. The fuel bounds their number. -/
def linesWithin (text : Array CodePoint) : Nat → Nat → List Line
  | 0, _ => []
  | fuel + 1, offset =>
      let start := ((Pattern.repeated (.one CodePoint.isBlank)).endAt? text offset).getD offset
      if text.size ≤ start then []
      else
        match readLine text start with
        | .ok (line, next) => line :: linesWithin text fuel next
        | .error stop =>
            let stop := (restOfLine.endAt? text stop).getD stop
            linesWithin text fuel (stop + 1)

def dropOrderMark : Text → Text
  | [] => []
  | first :: rest => if first = '\ufeff' then rest else first :: rest

def lines (content : Text) : List Line :=
  let text := (dropOrderMark content).unifyBreaks.toArray
  linesWithin text (text.size + 1) 0

/-- What a name stands for in a value: the lines above count before the environment. A name
without a value counts as empty. -/
def lookUp (environment : Mapping Text Text) (above : Mapping Text (Option Text))
    (name : Text) : Option Text :=
  match above.get? name with
  | some value => some (value.getD [])
  | none => environment.get? name

/-- The variables of a file. A name that comes again counts by its last value, or by none
if it has none there. -/
def read (environment : Mapping Text Text) (content : Text) : Mapping Text (Option Text) :=
  (lines content).foldl (fun above line =>
    match line.name with
    | none => above
    | some name =>
        let value := line.value.map (Reference.resolve (lookUp environment above))
        above.put name value) []

def referredNames (content : Text) : List Text :=
  (lines content).flatMap fun line => Reference.names (line.value.getD [])

end VariableFile

end Dimming
