import Dimming.Logging.Fault
import Dimming.Logging.Value

/-!
Templates of messages. Each place of a template takes the next argument, as text or as a
number without its fraction, and no argument may be left over. A template without
arguments is the message itself. Places with widths, names or other letters are not filled here, so
what a template with such a place makes is not told: a line is made with its message as it is given.
-/

set_option autoImplicit false

namespace Dimming

/-- What the places of a template are filled with: several values in order, or a single
one. -/
inductive LogArguments where
  | several (values : List LogValue)
  | single (value : LogValue)

namespace LogArguments

/-- Arguments that are handed over together. A filled object that comes alone is single. -/
def ofList : List LogValue → LogArguments
  | [.json (.object (member :: members))] => .single (.json (.object (member :: members)))
  | values => .several values

def values : LogArguments → List LogValue
  | .several values => values
  | .single value => [value]

def isNothing : LogArguments → Bool
  | .several values => values.isEmpty
  | .single value => value.isNothing

/-- Whether what is left over may be ignored: the parts of a single array or object have
places of their own, so it need not be used up. -/
def mayIgnoreRest : LogArguments → Bool
  | .single (.json (.array _)) => true
  | .single (.json (.object _)) => true
  | _ => false

def textOf (value : LogValue) : Except LogFault Text :=
  if value.isWritable then .ok value.text else .error (.number .tooManyDigits)

def wholeText (value : LogValue) : Except LogFault Text :=
  match value.number? with
  | some (.int whole) => textOf (.json (.number (.int whole)))
  | some (.double number) =>
      match Number.toWhole Double.truncate? number with
      | .ok whole => .ok (Text.ofInt whole)
      | .error fault => .error (.number fault)
  | none => .error (.notNumeric value.kind)

/-- Fills the places of a template with values, in order, and gives back those that are
left over. Other places than the two plain ones are given up. -/
def fill : Text → List LogValue → Except LogFault (Text × List LogValue)
  | [], values => .ok ([], values)
  | [point], values => if point = '%' then .error .incompleteTemplate else .ok ([point], values)
  | point :: mark :: rest, values =>
      if point = '%' then
        if mark = '%' then do
          let (text, left) ← fill rest values
          return (point :: text, left)
        else if mark = 's' || mark = 'd' then
          match values with
          | [] => .error .tooFewArguments
          | value :: values => do
              let shown ← if mark = 'd' then wholeText value else textOf value
              let (text, left) ← fill rest values
              return (shown ++ text, left)
        else .error .incompleteTemplate
      else do
        let (text, left) ← fill (mark :: rest) values
        return (point :: text, left)

def message (template : Text) (arguments : LogArguments) : Except LogFault Text :=
  if arguments.isNothing then .ok template
  else do
    let (text, left) ← fill template arguments.values
    if left.isEmpty || arguments.mayIgnoreRest then return text
    else .error .tooManyArguments

end LogArguments

end Dimming
