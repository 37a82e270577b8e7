import Dimming.Logging.Threshold
import Dimming.Window.Operation

/-!
A run of the program: the log is set up, the window comes up with the files that were named
on the command line, and control passes to the window.
-/

set_option autoImplicit false

namespace Dimming

/-- The window at the moment when control passes to it, everything asked of the surroundings
until then, and the lines that were logged, oldest first. -/
structure Launch where
  setup : LogSetup
  window : Window
  calls : List Call
  lines : List LogLine

inductive LaunchFault where
  | log (fault : LogFault)
  | window (fault : Fault)

namespace Launch

def starting : LogLine := ⟨.info, "__main__", "Starting LogDimmer application"⟩

def run (system : Text) (configuration : Configuration) (disk : Disk) (folder : Folder)
    (arguments : List Text) (row : TabRow := .silent) : Except LaunchFault Launch := do
  let setup ← match LogSetup.configure configuration [] with
    | .ok setup => .ok setup
    | .error fault => .error (.log fault)
  let opened : Except Fault Window := do
    let window ← Window.start system configuration disk folder row
    window.openFiles (arguments.map FilePath.ofText)
  match opened with
  | .error fault => .error (.window fault)
  | .ok window =>
      let before : List Call :=
        [.passRoundingThrough, .nameApplication Call.programTitle,
          .nameOrganization Call.programTitle]
      let lines := LogSetup.announcement :: starting :: window.session.logs.reverse
      .ok
        { setup, window
          calls := before ++ window.calls.reverse ++ [.reveal, .execute]
          lines := lines.filter fun line => setup.writes line.severity }

def recordOf (launch : Launch) (moment : Double) (line : LogLine) : LogRecord :=
  if line = LogSetup.announcement then
    LogSetup.announcementRecord launch.window.configuration moment
  else LogRecord.ofLine line moment

def written (launch : Launch) (moment : Double) : Except LogFault (List Text) :=
  launch.lines.mapM fun line => (launch.recordOf moment line).format launch.setup.format

end Launch

end Dimming
