import Crawlability.CommandLine.Ending
import Crawlability.Config.Load
import Crawlability.Log.Filter

/-!
The whole program on any host. A host has an environment and a home directory, it reads files, opens
the log and performs sessions. First the configuration is resolved, then the log is opened, and then
the command is run; what goes wrong on the way ends the program.
-/
namespace Crawlability.CommandLine

structure Host (m : Type → Type) where
  environment : Config.Environment
  home? : Option String
  readFile : String → m Config.FileContent
  openLog : String → m (Except Files.Error Unit)
  /-- Performs a session; events that pass the filter go to the log, and to the error stream as well
  if they are echoed. -/
  perform : Log.Filter → Bool → Session Ending → m Ending

namespace Host

variable {m : Type → Type} [Monad m]

/-- Runs what the arguments ask for. -/
def runInvocation (host : Host m) (i : Invocation) : m Ending := do
  let file? ← match i.config? with
    | none => pure none
    | some path => some <$> host.readFile path
  match Config.resolve file? host.environment with
  | .error e => return .failure "Failed to load configuration" e.causes
  | .ok config =>
    let path := i.logFile?.getD (config.logging.resolvedPath host.home?)
    match ← host.openLog path with
    | .error e => return .failure ("Failed to open log file " ++ path) [e.message]
    | .ok () =>
      let filter := Log.Filter.ofVerbosity i.verbose i.quiet
      host.perform filter (0 < i.verbose) (i.command.session config)

def run (host : Host m) (args : List String) : m Ending :=
  match Invocation.parse args with
  | .error stop => return stop.ending
  | .ok i => host.runInvocation i

end Host

end Crawlability.CommandLine
