import ResourceQuery.Command.Directory
import ResourceQuery.Log.Event

namespace ResourceQuery.Command

/-- Why a log cannot be opened. -/
inductive LogFault where
  | directory (e : FileError)
  /-- The directory is there and the file cannot be opened; the program aborts. -/
  | file (e : FileError)
  deriving DecidableEq, Repr

/-- The log file of a day. -/
def logFileName (now : Time.Instant) : String :=
  "resq.log." ++ Time.printDate (.ofDays (now.seconds / Time.secondsPerDay))

def logPath (now : Time.Instant) (directory : String) : String :=
  if directory.isEmpty then logFileName now
  else if directory.toList.getLast? = some '/' then directory ++ logFileName now
  else directory ++ "/" ++ logFileName now

/-- The directories and files once a log in the directory is open and has the events. -/
def Directory.openLog (d : Directory) (now : Time.Instant) (directory : String)
    (events : List Log.Event) : Except LogFault Directory := do
  let made ← (d.make directory).mapError .directory
  (made.append (logPath now directory) (String.join (events.map (Log.Event.line now)))).mapError .file

end ResourceQuery.Command
