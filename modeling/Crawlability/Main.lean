import Crawlability.CommandLine.Run
import Crawlability.Files.Path
import Crawlability.Log.Line
import Std.Time.Format

/-!
The program on the computer that it runs on: its files, its clock and its environment. It has no way
to reach servers, so every request fails to connect.
-/
namespace Crawlability.CommandLine

/-- The number of an error of the system, which may come with either sign. -/
def isCode (n code : UInt32) : Bool := code == n || code + n == 0

/-- The error of the system that stopped an operation on a file. -/
def fileError : IO.Error → Files.Error
  | .noFileOrDirectory .. => .notFound
  | .alreadyExists .. => .alreadyExists
  | .inappropriateType _ code details =>
    if isCode 20 code then .notADirectory
    else if isCode 21 code then .isADirectory
    else .other details
  | e => .other (toString e)

def readFile (path : String) : IO Config.FileContent := do
  try
    return .ok (← IO.FS.readBinFile path).toList
  catch e =>
    return .error (fileError e)

/-- The directory that a path is in; the working directory has no name. -/
def parentText (path : String) : String :=
  let p := Files.Path.ofText path
  (if p.isAbsolute then "/" else "") ++ "/".intercalate p.parentSteps

/-- Opens a file in order to add to it, in a directory that is made if needed. -/
def openToAppend (path : String) : IO (Except Files.Error IO.FS.Handle) := do
  try
    let parent := parentText path
    unless parent.isEmpty do
      IO.FS.createDirAll parent
    return .ok (← IO.FS.Handle.mk path .append)
  catch e =>
    return .error (fileError e)

/-- The present time, as the log and as the error stream write it: the log takes the local time, if
the zone is known. -/
def now : IO Log.Stamp := do
  let moment ← Std.Time.Timestamp.now
  let universal := (Std.Time.DateTime.ofTimestampWithZone moment .UTC).toPlainDateTime
  let here ← try Std.Time.PlainDateTime.now catch _ => pure universal
  return ⟨here.format "uuuu-MM-dd HH:mm:ss", universal.format "uuuu-MM-dd'T'HH:mm:ss.SSSSSS'Z'"⟩

/-- Writes an event to the log, and to the error stream if it is echoed. -/
def write (log? : Option IO.FS.Handle) (echoes : Bool) (event : Log.Event) : IO Unit := do
  let record : Log.Record := ⟨← now, event⟩
  if let some log := log? then
    log.putStr record.line
    log.flush
  if echoes then IO.eprint record.streamLine

def perform (log? : Option IO.FS.Handle) (filter : Log.Filter) (echoes : Bool) :
    Session Ending → IO Ending
  | .done ending => return ending
  | .send request next => perform log? filter echoes (next (Network.unreachable.answer [] request))
  | .report event next => do
    if filter.passes event then write log? echoes event
    perform log? filter echoes next
  | .pause length next => do
    IO.sleep (length.nanos / 1000000).toUInt32
    perform log? filter echoes next

/-- The values that the variables of the environment have when the program starts. -/
def environment : IO Config.Environment := do
  let values ← Config.variableNames.mapM fun name => return (name, ← IO.getEnv name)
  return fun name => (values.lookup name).join

def localHost : IO (Host IO) := do
  let log ← IO.mkRef (none : Option IO.FS.Handle)
  return {
    environment := ← environment
    home? := ← IO.getEnv "HOME"
    readFile := readFile
    openLog := fun path => do
      match ← openToAppend path with
      | .error e => return .error e
      | .ok handle =>
        log.set (some handle)
        return .ok ()
    perform := fun filter echoes session => do perform (← log.get) filter echoes session }

end Crawlability.CommandLine

def main (args : List String) : IO UInt32 := do
  let ending ← (← Crawlability.CommandLine.localHost).run args
  IO.print ending.output
  IO.eprint ending.errors
  return ending.status.toUInt32
