import Dimming.Window.Launch
import Std.Time.DateTime.Timestamp

/-!
The command line. The files that are named on it are opened, and what is logged until the
window takes over is written to the standard output. Settings are read from the home
folder, the configuration from the environment and from the file `.env` of the working folder.
-/

set_option autoImplicit false

namespace Dimming

namespace CommandLine

def characters (text : Text) : String :=
  String.ofList (text.map fun point => Char.ofNat point.value)

/-- The error code of a folder that was to be read as a file. -/
def isFolderCode : UInt32 := 21

def entryAt? (path : String) : IO (Option FolderEntry) := do
  match ← (IO.FS.readBinFile path).toBaseIO with
  | .ok bytes => return some (.file bytes.toList)
  | .error (.inappropriateType _ code _) =>
      return if code = isFolderCode then some .folder else none
  | .error _ => return none

/-- Whatever can be looked up on the way to some paths. -/
def folderAround (paths : List FilePath) : IO Folder := do
  let mut folder : Folder := []
  for path in paths.flatMap Folder.wayTo do
    if let some entry ← entryAt? (characters path.toText) then
      folder := folder.put path entry
  return folder

def diskOf (home : String) : IO Disk := do
  match ← entryAt? (home ++ "/.logdimmer") with
  | none => return .absent
  | some (.file _) => return .blocked
  | some .folder =>
      match ← entryAt? (home ++ "/.logdimmer/settings.json") with
      | none => return .present .missing
      | some .folder => return .present .folder
      | some (.file bytes) => return .present (.bytes bytes)

def readVariables : IO Variables := do
  let file : Option Text := match ← entryAt? ".env" with
    | some (.file bytes) => some (Utf8.decodeLenient bytes)
    | _ => none
  let settings := Configuration.settingNames.map fun setting =>
    (Variables.nameOf setting).map CodePoint.toAsciiUpper
  let mut environment : List (Text × Text) := []
  for name in settings ++ (file.map VariableFile.referredNames).getD [] do
    if let some value ← IO.getEnv (characters name) then
      environment := environment ++ [(name, (value : Text))]
  return .ofSources environment file

def now : IO Double := do
  let moment ← Std.Time.Timestamp.now
  return Double.ofInt moment.toSecondsSinceUnixEpoch.val

def writeLine (stream : IO.FS.Stream) (line : Text) : IO Unit := do
  stream.write (ByteArray.mk (Utf8.encode (line ++ "\n")).toArray)
  stream.flush

def refuse (reason : Text) : IO UInt32 := do
  writeLine (← IO.getStderr) reason
  return 1

def run (arguments : List Text) : IO UInt32 := do
  match Configuration.read (← readVariables) with
  | .error problems =>
      refuse (Text.join "\n" (problems.map fun problem =>
        problem.setting.name ++ ": " ++ problem.problem.message))
  | .ok configuration =>
      let disk ← diskOf ((← IO.getEnv "HOME").getD "")
      let folder ← folderAround (arguments.map FilePath.ofText)
      match Launch.run "Linux" configuration disk folder arguments with
      | .error (.log fault) => refuse fault.message
      | .error (.window fault) => refuse fault.message
      | .ok launch =>
          match launch.written (← now) with
          | .error fault => refuse fault.message
          | .ok lines =>
              lines.forM (writeLine (← IO.getStdout))
              return 0

end CommandLine

end Dimming

def main (arguments : List String) : IO UInt32 :=
  Dimming.CommandLine.run (arguments.map Dimming.Text.ofString)
