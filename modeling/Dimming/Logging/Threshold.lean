import Dimming.Configuration.Basic
import Dimming.Log
import Dimming.Logging.Format
import Dimming.Text.Case

/-!
Setting up the log from the configuration: from which severity on lines are written, and in
which format. Letter case does not matter in names of severities; a name that is none means
the usual threshold. Two names are taken by something else and are refused.
-/

set_option autoImplicit false

namespace Dimming

namespace Threshold

def names : List (Text × Nat) :=
  [("CRITICAL", 50), ("FATAL", 50), ("ERROR", 40), ("WARNING", 30), ("WARN", 30), ("INFO", 20),
    ("DEBUG", 10), ("NOTSET", 0)]

def usual : Nat := 20

/-- The name of the standard layout, which is no severity. -/
def layoutName : Text := "BASIC_FORMAT"

def layout : Text := "%(levelname)s:%(name)s:%(message)s"

/-- The name of the table of layouts, which is no severity either. -/
def layoutTableName : Text := "_STYLES"

/-- The table of layouts, as it is shown: a mark, a family and a layout in each row. -/
def layoutTable : Text :=
  let row (mark family layout : Text) : Text :=
    mark.quoted ++ ": (<class 'logging." ++ family ++ "'>, " ++ layout.quoted ++ ")"
  let rows : List Text :=
    [row "%" "PercentStyle" layout,
      row "\x7b" "StrFormatStyle" "\x7blevelname\x7d:\x7bname\x7d:\x7bmessage\x7d",
      row "$" "StringTemplateStyle" "$\x7blevelname\x7d:$\x7bname\x7d:$\x7bmessage\x7d"]
  "\x7b" ++ Text.join ", " rows ++ "\x7d"

def ofName (name : Text) : Except LogFault Nat :=
  let name := name.toUpper
  if name = layoutName then .error (.unknownThreshold layout)
  else if name = layoutTableName then .error (.noThreshold layoutTable)
  else
    match names.find? (·.1 = name) with
    | some entry => .ok entry.2
    | none => .ok usual

end Threshold

namespace LogRecord

def ofLine (line : LogLine) (created : Double) : LogRecord :=
  { logger := .json (.string line.logger)
    levelName := .json (.string line.severity.name)
    template := line.text
    arguments := .several []
    module := .json (.string line.part)
    function := .json .null
    line := .json .null
    created := .double created
    failure := none
    failureText := []
    stack := []
    fields := []
    attributes := [] }

end LogRecord

structure LogSetup where
  threshold : Nat
  handlers : List Nat
  format : LogFormat
deriving DecidableEq

namespace LogSetup

/-- The handlers that are left when each one in a copy of their row has been removed from it. -/
def cleared (handlers : List Nat) : List Nat := handlers.foldl List.erase handlers

/-- Adds one handler when those that were there have been removed. -/
def configure (configuration : Configuration) (previous : List Nat) :
    Except LogFault LogSetup := do
  let threshold ← Threshold.ofName configuration.logLevel
  let handlers := cleared previous ++ [threshold]
  return ⟨threshold, handlers, LogFormat.ofName configuration.logFormat⟩

def writes (setup : LogSetup) (severity : Severity) : Bool :=
  setup.threshold ≤ severity.weight && setup.handlers.any (· ≤ severity.weight)

def announcement : LogLine := ⟨.info, "logging_config", "Logging configured"⟩

def announcementRecord (configuration : Configuration) (created : Double) : LogRecord :=
  { LogRecord.ofLine announcement created with
    attributes :=
      [("log_level", .json (.string configuration.logLevel)),
        ("log_format", .json (.string configuration.logFormat))] }

end LogSetup

end Dimming
