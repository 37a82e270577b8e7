import Dimming.Json.Display
import Dimming.Number.Basic

/-!
Why an operation fails, and what the user is told.
-/

set_option autoImplicit false

namespace Dimming

namespace NumberFault

def message : NumberFault → Text
  | .quotientTooLarge => "integer division result too large for a float"
  | .wholeTooLarge => "int too large to convert to float"
  | .wholeOfNothing => "cannot convert float NaN to integer"
  | .wholeOfInfinity => "cannot convert float infinity to integer"
  | .notDecimal text => "could not convert string to float: " ++ text.quoted
  | .notHexadecimal text => "invalid literal for int() with base 16: " ++ text.quoted
  | .tooManyDigits =>
      "Exceeds the limit (4300 digits) for integer string conversion; " ++
        "use sys.set_int_max_str_digits() to increase the limit"

end NumberFault

def settingsPath : Text := "<home>/.logdimmer/settings.json"

inductive Fault where
  | number (fault : NumberFault)
  | invalidColor (value : Json)
  | cannotSave (key : Text)
  | raised (text : Text)
  | unknownListener (name : Text)
  | neverActivated (dimmer : Nat)
  | nullInPath
  | notEncodable (encoding surrogates : Text) (offset : Nat)

namespace Fault

def message : Fault → Text
  | .number fault => fault.message
  | .invalidColor value => "Invalid color: " ++ value.display
  | .cannotSave key => "Failed to save '" ++ key ++ "' to " ++ settingsPath
  | .raised text => text
  | .unknownListener name => name.quoted
  | .neverActivated dimmer => Text.ofNat dimmer
  | .nullInPath => "embedded null byte"
  | .notEncodable encoding surrogates offset =>
      let place : Text :=
        if surrogates.length = 1 then
          "character " ++ surrogates.quoted ++ " in position " ++ Text.ofNat offset
        else
          "characters in position " ++ Text.ofNat offset ++ "-" ++
            Text.ofNat (offset + surrogates.length - 1)
      "'" ++ encoding ++ "' codec can't encode " ++ place ++ ": surrogates not allowed"

end Fault

/-- What steps lead to up to the first that fails, and what is left by that one. -/
def upToFault {Failure State Item : Type} (step : State → Item → Except Failure State)
    (left : State → Item → State) : State → List Item → State
  | state, [] => state
  | state, item :: items =>
      match step state item with
      | .ok next => upToFault step left next items
      | .error _ => left state item

/-- The families of failures of the program itself, each of which but one lies inside a
wider one. -/
inductive FaultFamily where
  | dimming
  | configuration
  | invalidColor
  | persistence
deriving DecidableEq

namespace FaultFamily

def name : FaultFamily → Text
  | .dimming => "LogDimmerException"
  | .configuration => "ConfigurationError"
  | .invalidColor => "InvalidColorError"
  | .persistence => "SettingsPersistenceError"

def qualifiedName (family : FaultFamily) : Text := "logdimmer.exceptions." ++ family.name

/-- A family and the wider ones around it, the nearest first. -/
def lineage : FaultFamily → List FaultFamily
  | .dimming => [.dimming]
  | .configuration => [.configuration, .dimming]
  | .invalidColor => [.invalidColor, .configuration, .dimming]
  | .persistence => [.persistence, .dimming]

def all : List FaultFamily := [.dimming, .configuration, .invalidColor, .persistence]

def ofName? (name : Text) : Option FaultFamily := all.find? (·.name = name)

end FaultFamily

end Dimming
