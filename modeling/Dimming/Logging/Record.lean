import Dimming.Logging.Template
import Dimming.Mapping

/-!
Records of the log as they are handed to a formatter: a template with arguments, where and
when it was written, perhaps a failure, and further attributes. The attributes that every
record has can be set by their names like any other.
-/

set_option autoImplicit false

namespace Dimming

/-- A failure that a record carries; the family is empty where none is known. -/
inductive LoggedFailure where
  | nothing
  | failure (family : Text) (ofKey : Bool) (arguments : List LogValue)

namespace LoggedFailure

/-- One argument is shown as it is, or quoted if it is a key; several are shown together. -/
def argumentText (ofKey : Bool) : List LogValue → Text
  | [] => []
  | [argument] => if ofKey then argument.display else argument.text
  | arguments => "(" ++ Text.join ", " (arguments.map LogValue.display) ++ ")"

def text : LoggedFailure → Text
  | .nothing => "NoneType: None"
  | .failure family ofKey arguments =>
      let shown := argumentText ofKey arguments
      if shown.isEmpty then family else family ++ ": " ++ shown

/-- What becomes of a failure when a value is set in its place: nothing removes it, and
three nulls stand for a failure of which nothing is known. Other values are no failure. -/
def replacedBy (value : LogValue) (failure : Option LoggedFailure) : Option LoggedFailure :=
  if value.isNothing then none
  else
    match value with
    | .json (.array (_ :: .null :: .null :: _)) => some .nothing
    | _ => failure

end LoggedFailure

/-- The times are in seconds since the beginning of 1970. Where `failureText` is not empty
it stands for the failure; `stack` stands below it. -/
structure LogRecord where
  logger : LogValue
  levelName : LogValue
  template : Text
  arguments : LogArguments
  module : LogValue
  function : LogValue
  line : LogValue
  created : Number
  failure : Option LoggedFailure
  failureText : Text
  stack : Text
  fields : Mapping Text LogValue
  attributes : Mapping Text LogValue

namespace LogRecord

def levelNameOf (level : Int) : Text :=
  let table : List (Int × Text) :=
    [(0, "NOTSET"), (10, "DEBUG"), (20, "INFO"), (30, "WARNING"), (40, "ERROR"), (50, "CRITICAL")]
  match table.find? (·.1 = level) with
  | some entry => entry.2
  | none => "Level " ++ Text.ofInt level

/-- The name of a file without folders and without its ending. A point with nothing but
points in front of it begins no ending. -/
def moduleOf (path : Text) : Text :=
  let name := (path.reverse.takeWhile (!CodePoint.is '/' ·)).reverse
  let ending := (name.reverse.takeWhile (!CodePoint.is '.' ·)).length + 1
  let stem := name.take (name.length - ending)
  if name.length < ending || stem.all (CodePoint.is '.') then name else stem

def unknownModule : Text := "Unknown module"

/-- Attributes that every record has; they are no further attributes. -/
def standardAttributes : List Text :=
  ["name", "msg", "args", "levelname", "levelno", "pathname", "filename", "module", "exc_info",
    "exc_text", "stack_info", "lineno", "funcName", "created", "msecs", "relativeCreated",
    "thread", "threadName", "processName", "process", "message", "asctime", "extra_fields",
    "taskName"]

/-- The fields that a value holds: its members if it is an object, else none. -/
def fieldsOf : LogValue → Mapping Text LogValue
  | .json (.object members) => members.map fun member => (member.1, .json member.2)
  | _ => []

/-- Text that is added to a line, which a value that counts as nothing does not have. -/
def additionOf (value : LogValue) : Text := if value.isNothing then [] else value.text

/-- Sets an attribute of a record. Standard ones that no line shows are left alone. -/
def setAttribute (record : LogRecord) (name : Text) (value : LogValue) : LogRecord :=
  if name = "name" then { record with logger := value }
  else if name = "levelname" then { record with levelName := value }
  else if name = "msg" then { record with template := value.text }
  else if name = "args" then { record with arguments := .single value }
  else if name = "module" then { record with module := value }
  else if name = "funcName" then { record with function := value }
  else if name = "lineno" then { record with line := value }
  else if name = "created" then { record with created := value.number?.getD record.created }
  else if name = "exc_info" then
    { record with failure := LoggedFailure.replacedBy value record.failure }
  else if name = "exc_text" then { record with failureText := additionOf value }
  else if name = "stack_info" then { record with stack := additionOf value }
  else if name = "extra_fields" then { record with fields := fieldsOf value }
  else if standardAttributes.contains name then record
  else { record with attributes := record.attributes.put name value }

def message (record : LogRecord) : Except LogFault Text :=
  record.arguments.message record.template

end LogRecord

end Dimming
