import Dimming.Configuration.VariableFile
import Dimming.Configuration.WholeNumber

/-!
Configuration from variables: those of the environment, then those of a file, then the
defaults. Letter case does not matter in names. Texts are taken as they are.
-/

set_option autoImplicit false

namespace Dimming

structure Configuration where
  logLevel : Text
  logFormat : Text
  windowWidth : Int
  windowHeight : Int
  fontSize : Int
  notificationTimeout : Int
deriving DecidableEq

inductive IntegerSetting where
  | fontSize
  | windowHeight
  | windowWidth
  | notificationTimeout
deriving DecidableEq

namespace IntegerSetting

def name : IntegerSetting → Text
  | .fontSize => "default_font_size"
  | .windowHeight => "default_window_height"
  | .windowWidth => "default_window_width"
  | .notificationTimeout => "notification_timeout_ms"

def fallback : IntegerSetting → Int
  | .fontSize => 10
  | .windowHeight => 800
  | .windowWidth => 1000
  | .notificationTimeout => 5000

/-- In the order of their names. -/
def all : List IntegerSetting := [.fontSize, .windowHeight, .windowWidth, .notificationTimeout]

end IntegerSetting

structure IntegerProblem where
  setting : IntegerSetting
  problem : WholeNumber.Problem
deriving DecidableEq

/-- Variables by their names in lower case. -/
structure Variables where
  environment : Mapping Text Text
  file : Mapping Text (Option Text)

namespace Variables

def lowerNames {Value : Type} (entries : List (Text × Value)) : Mapping Text Value :=
  Mapping.ofEntries (entries.map fun entry => (entry.1.toAsciiLower, entry.2))

def ofSources (environment : List (Text × Text)) (file : Option Text) : Variables :=
  let inFile : Mapping Text (Option Text) := match file with
    | none => []
    | some content => VariableFile.read (Mapping.ofEntries environment) content
  ⟨lowerNames environment, lowerNames inFile⟩

def nameOf (setting : Text) : Text := "logdimmer_" ++ setting

def find? (given : Variables) (setting : Text) : Option Text :=
  match given.environment.get? (nameOf setting) with
  | some value => some value
  | none => (given.file.get? (nameOf setting)).join

end Variables

namespace Configuration

def settingNames : List Text := "log_level" :: "log_format" :: IntegerSetting.all.map (·.name)

/-- A setting that is given counts even if it cannot be read. -/
def integer (given : Variables) (setting : IntegerSetting) : Except WholeNumber.Problem Int :=
  match given.find? setting.name with
  | none => .ok setting.fallback
  | some text => WholeNumber.read text

def problems (given : Variables) : List IntegerProblem :=
  IntegerSetting.all.filterMap fun setting =>
    match integer given setting with
    | .ok _ => none
    | .error problem => some ⟨setting, problem⟩

def read (given : Variables) : Except (List IntegerProblem) Configuration :=
  let integerOf (setting : IntegerSetting) : Int :=
    match integer given setting with
    | .ok value => value
    | .error _ => setting.fallback
  match problems given with
  | [] =>
      .ok
        { logLevel := (given.find? "log_level").getD "INFO"
          logFormat := (given.find? "log_format").getD "json"
          windowWidth := integerOf .windowWidth
          windowHeight := integerOf .windowHeight
          fontSize := integerOf .fontSize
          notificationTimeout := integerOf .notificationTimeout }
  | first :: others => .error (first :: others)

end Configuration

/-- The configuration that is in use, once it has been read. -/
abbrev ConfigurationStore := Option Configuration

namespace ConfigurationStore

/-- The answer to a request, whether the configuration in use is still the one before it,
and what is in use now. -/
structure Reading where
  result : Except (List IntegerProblem) Configuration
  kept : Bool
  store : ConfigurationStore

/-- Reads the variables anew. What cannot be read leaves the old configuration in use. -/
def reload (given : Variables) (store : ConfigurationStore) : Reading :=
  match Configuration.read given with
  | .ok configuration => ⟨.ok configuration, false, some configuration⟩
  | .error problems => ⟨.error problems, store.isSome, store⟩

/-- The configuration in use, which is read at the first request. -/
def get (given : Variables) : ConfigurationStore → Reading
  | some configuration => ⟨.ok configuration, true, some configuration⟩
  | none => reload given none

end ConfigurationStore

end Dimming
