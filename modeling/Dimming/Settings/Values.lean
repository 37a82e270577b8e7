import Dimming.Color
import Dimming.Fault
import Dimming.Json.Display
import Dimming.Json.Reader
import Dimming.Json.Writer
import Dimming.Log
import Dimming.Settings.Disk
import Dimming.Text.Lines
import Dimming.Text.Utf8

/-!
Stored settings and their meaning. Whatever the file holds, reading a setting gives a
usable value: a value that makes no sense counts as the default and is complained about.
Entries that the program does not know are kept as they are.
-/

set_option autoImplicit false

namespace Dimming

abbrev Settings := Mapping Text Json

namespace Settings

def opacityKey : Text := "opacity"

def colorKey : Text := "color"

def enabledKey : Text := "enabled"

def defaultOpacity : Number := .int 50

def defaultColor : Text := "#808080"

def defaultEnabled : Bool := true

inductive Complaint where
  | invalid (key : Text) (value : Json)
  | outOfRange (value : Json)

namespace Complaint

def message : Complaint → Text
  | .invalid key value => "Ignoring invalid " ++ key ++ " setting: " ++ value.display
  | .outOfRange value => "Ignoring out of range opacity setting: " ++ value.display

end Complaint

def readOpacity (settings : Settings) : Number × Option Complaint :=
  match settings.get? opacityKey with
  | none => (defaultOpacity, none)
  | some (.number number) =>
      if number.between 0 100 then (number, none)
      else (defaultOpacity, some (.outOfRange (.number number)))
  | some value => (defaultOpacity, some (.invalid opacityKey value))

def readColor (settings : Settings) : Text × Option Complaint :=
  match settings.get? colorKey with
  | none => (defaultColor, none)
  | some (.string color) =>
      if Color.isValidText color then (color, none)
      else (defaultColor, some (.invalid colorKey (.string color)))
  | some value => (defaultColor, some (.invalid colorKey value))

def readEnabled (settings : Settings) : Bool × Option Complaint :=
  match settings.get? enabledKey with
  | none => (defaultEnabled, none)
  | some (.bool enabled) => (enabled, none)
  | some value => (defaultEnabled, some (.invalid enabledKey value))

def opacity (settings : Settings) : Number := settings.readOpacity.1

def color (settings : Settings) : Text := settings.readColor.1

def enabled (settings : Settings) : Bool := settings.readEnabled.1

/-- The most digits of a whole number in the file. There is a limit to how deeply arrays and objects
may be nested, too; they are taken to stay below it. -/
def digitLimit : Nat := 4300

/-- Whether settings can be kept in a file. -/
def isStorable (settings : Settings) : Bool := (Json.object settings).fits (some digitLimit)

def encode (settings : Settings) : List UInt8 :=
  Utf8.encode (Json.writeIndented (.object settings))

/-- What is written of settings that cannot be kept. -/
def encodePart (settings : Settings) : List UInt8 :=
  Utf8.encode (Json.writePart (some digitLimit) .indented 0 [] (.object settings))

inductive Obstacle where
  | folder
  | noText (flaw : Utf8.Flaw)
  | noValue (text : Text) (fault : Json.ReadFault)

namespace Obstacle

def message : Obstacle → Text
  | .folder => "[Errno 21] Is a directory: " ++ settingsPath.quoted
  | .noText flaw => flaw.message
  | .noValue text fault => fault.message text

end Obstacle

inductive Loading where
  | absent
  | unreadable (obstacle : Obstacle)
  | malformed
  | loaded (settings : Settings)

namespace Loading

def ofText (text : Text) : Loading :=
  match Json.read (some digitLimit) text with
  | .error fault => .unreadable (.noValue text fault)
  | .ok (.object members) => .loaded members
  | .ok _ => .malformed

def ofContent (content : List UInt8) : Loading :=
  match Utf8.decode content with
  | .error flaw => .unreadable (.noText flaw)
  | .ok text => ofText text.unifyBreaks

def ofDisk (disk : Disk) : Loading :=
  match disk.file with
  | .missing => .absent
  | .folder => .unreadable .folder
  | .bytes content => ofContent content

def settings : Loading → Settings
  | .loaded settings => settings
  | _ => []

def note (severity : Severity) (text : Text) : LogLine := ⟨severity, "settings", text⟩

def report : Loading → List LogLine
  | .absent => [note .info ("No settings file at " ++ settingsPath ++ ", using defaults")]
  | .unreadable obstacle => [note .error ("Failed to load settings: " ++ obstacle.message)]
  | .malformed =>
      [note .error ("Ignoring malformed settings file: " ++ settingsPath),
        note .info ("Loaded settings from: " ++ settingsPath)]
  | .loaded _ => [note .info ("Loaded settings from: " ++ settingsPath)]

end Loading

end Settings

end Dimming
