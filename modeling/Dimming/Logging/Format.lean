import Dimming.Json.Writer
import Dimming.Logging.Calendar
import Dimming.Logging.Record
import Dimming.Text.Blank

/-!
Lines of the log, either as text for people or as one object of the data format for
programs. In an object the fields of a record come after the standing members, and its
further attributes after those; a later one with the same name takes an earlier one's
place. A line is made with whatever message comes of the record, and given up where none does.
-/

set_option autoImplicit false

namespace Dimming

inductive LogFormat where
  | json
  | text
deriving DecidableEq

namespace LogFormat

/-- Every name but one means text. -/
def ofName (name : Text) : LogFormat := if name.toAsciiLower = "json" then .json else .text

def name : LogFormat → Text
  | .json => "json"
  | .text => "text"

end LogFormat

namespace LogRecord

def isWithinReach (seconds : Int) : Bool :=
  decide (-(Nat.pow 2 63 : Int) ≤ seconds ∧ seconds < (Nat.pow 2 63 : Int))

def instant (record : LogRecord) : Except LogFault Instant :=
  match record.created with
  | .int seconds => if isWithinReach seconds then .ok ⟨seconds, 0⟩ else .error .instantTooFar
  | .double number =>
      match Instant.ofDouble? number with
      | some instant =>
          if isWithinReach instant.seconds then .ok instant else .error .instantTooFar
      | none => if number = .nan then .error .instantMissing else .error .instantTooFar

def secondOf (record : LogRecord) : Except LogFault Int := do
  let instant ← record.instant
  return match record.created with
    | .int seconds => seconds
    | .double number => number.floor?.getD instant.seconds

/-- The date and time of day of a second. Years are counted from 1900 in 32 bits. -/
def dateTimeOf (seconds : Int) : Except LogFault DateTime :=
  let dateTime := DateTime.ofSeconds seconds
  if -2147483648 ≤ dateTime.year - 1900 ∧ dateTime.year - 1900 ≤ 2147483647 then .ok dateTime
  else .error .yearTooLarge

/-- The moment of a record to the microsecond. Only years of four digits are written, and
any other is told as it comes out in 32 bits. -/
def timestamp (record : LogRecord) : Except LogFault Text := do
  let instant ← record.instant
  let dateTime ← dateTimeOf instant.seconds
  if 1 ≤ dateTime.year ∧ dateTime.year ≤ 9999 then
    return dateTime.stampText instant.microseconds
  else .error (.yearTooFar (Int.bmod dateTime.year (Nat.pow 2 32)))

/-- The moment of a record, the second begun. Only years of 32 bits are written. -/
def secondText (record : LogRecord) : Except LogFault Text := do
  let dateTime ← dateTimeOf (← record.secondOf)
  if dateTime.year ≤ 2147483647 then return dateTime.plainText
  else .error .yearNotWritable

def withLines (text lines : Text) : Text :=
  if lines.isEmpty then text
  else if text.getLast? = some (CodePoint.ofChar '\n') then text ++ lines
  else text ++ "\n" ++ lines

def shownFailure (record : LogRecord) : Text :=
  if record.failureText.isEmpty then (record.failure.map (·.text)).getD []
  else record.failureText

section Message

variable (record : LogRecord) (message : Except LogFault Text)

/-- The members that every line has, and the failure if there is one. -/
def standing : Except LogFault (Mapping Text LogValue) := do
  let timestamp ← record.timestamp
  let message ← message
  let members : Mapping Text LogValue :=
    [("timestamp", .json (.string timestamp)), ("level", record.levelName),
      ("logger", record.logger), ("message", .json (.string message)),
      ("module", record.module), ("function", record.function), ("line", record.line)]
  return match record.failure with
    | none => members
    | some failure => members.put "exception" (.json (.string failure.text))

def membersWith : Except LogFault (Mapping Text LogValue) := do
  let standing ← record.standing message
  return (standing.override record.fields).override record.attributes

/-- A line in the data format, which whole numbers of too many digits do not stand in. -/
def jsonLine : Except LogFault Text := do
  let members ← record.membersWith message
  let value : Json := .object (members.map fun member => (member.1, member.2.toJson))
  if value.fits (some LogValue.digitLimit) then return value.write
  else .error (.number .tooManyDigits)

def textBodyWith : Except LogFault Text := do
  let message ← message
  let text := record.logger.text ++ " - " ++ record.levelName.text ++ " - " ++ message
  return withLines (withLines text record.shownFailure) record.stack

def textLine : Except LogFault Text := do
  let body ← record.textBodyWith message
  let second ← record.secondText
  return second ++ " - " ++ body

def formatWith : LogFormat → Except LogFault Text
  | .json => record.jsonLine message
  | .text => record.textLine message

end Message

variable (record : LogRecord)

def members : Except LogFault (Mapping Text LogValue) := record.membersWith record.message

def textBody : Except LogFault Text := record.textBodyWith record.message

def format : LogFormat → Except LogFault Text := record.formatWith record.message

end LogRecord

end Dimming
