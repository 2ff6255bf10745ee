import Crawlability.Log.Filter

/-!
The two written forms of an event: the line of the log file and the line that is echoed on the
error stream. The message is written as it is.
-/
namespace Crawlability.Log

/-- The time of an event, as the log file and as the error stream write it. -/
structure Stamp where
  file : String
  stream : String
deriving Repr, DecidableEq

/-- An event with the time at which it was logged. -/
structure Record where
  stamp : Stamp
  event : Event
deriving Repr, DecidableEq

/-- The level's name, set flush right in five columns. -/
def Level.padded (level : Level) : String :=
  .ofList (List.replicate (5 - level.name.length) ' ') ++ level.name

namespace Record

/-- A line of the log file. -/
def line (r : Record) : String :=
  "[" ++ r.stamp.file ++ "] [" ++ r.event.level.name ++ "] " ++ r.event.message ++ "\n"

/-- A line of the error stream. -/
def streamLine (r : Record) : String :=
  r.stamp.stream ++ " " ++ r.event.level.padded ++ " " ++ r.event.message ++ "\n"

end Record

namespace Filter

/-- The records that pass, in order. -/
def select (f : Filter) (records : List Record) : List Record := records.filter (f.passes ·.event)

/-- What the log file holds of the records. -/
def write (f : Filter) (records : List Record) : String :=
  String.join ((f.select records).map Record.line)

/-- What the error stream shows of the records. -/
def writeStream (f : Filter) (records : List Record) : String :=
  String.join ((f.select records).map Record.streamLine)

end Filter

end Crawlability.Log
