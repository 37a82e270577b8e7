import Dimming.Text.CodePoint

/-!
Lines of the program's own log.
-/

set_option autoImplicit false

namespace Dimming

inductive Severity where
  | debug
  | info
  | warning
  | error
  | critical
deriving DecidableEq

namespace Severity

def weight : Severity → Nat
  | .debug => 10
  | .info => 20
  | .warning => 30
  | .error => 40
  | .critical => 50

def name : Severity → Text
  | .debug => "DEBUG"
  | .info => "INFO"
  | .warning => "WARNING"
  | .error => "ERROR"
  | .critical => "CRITICAL"

end Severity

/-- The part of the program that writes a line is named below the program. -/
structure LogLine where
  severity : Severity
  part : Text
  text : Text
deriving DecidableEq

namespace LogLine

def logger (line : LogLine) : Text := "logdimmer." ++ line.part

end LogLine

end Dimming
