import Dimming.Fault

/-!
Why a record of the log cannot be formatted, or the log not be set up.
-/

set_option autoImplicit false

namespace Dimming

inductive LogFault where
  | tooFewArguments
  | tooManyArguments
  | incompleteTemplate
  | notNumeric (kind : Text)
  | number (fault : NumberFault)
  | instantMissing
  | instantTooFar
  | yearTooLarge
  | yearNotWritable
  | yearTooFar (year : Int)
  | unknownThreshold (name : Text)
  | noThreshold (shown : Text)
deriving DecidableEq

namespace LogFault

def message : LogFault → Text
  | .tooFewArguments => "not enough arguments for format string"
  | .tooManyArguments => "not all arguments converted during string formatting"
  | .incompleteTemplate => "incomplete format"
  | .notNumeric kind => "%d format: a real number is required, not " ++ kind
  | .number fault => fault.message
  | .instantMissing => "Invalid value NaN (not a number)"
  | .instantTooFar => "timestamp out of range for platform time_t"
  | .yearTooLarge => "[Errno 75] Value too large for defined data type"
  | .yearNotWritable => "signed integer is greater than maximum"
  | .yearTooFar year => "year " ++ Text.ofInt year ++ " is out of range"
  | .unknownThreshold name => "Unknown level: " ++ name.quoted
  | .noThreshold shown => "Level not an integer or a valid string: " ++ shown

end LogFault

end Dimming
