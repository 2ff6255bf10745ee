/-!
The configuration of the program: four sections, each of which has a default for everything that it
does not give.
-/
namespace Crawlability

/-- The program with its version, as it names itself to servers. -/
def defaultUserAgent : String := "CrawlSignal/0.1.0"

/-- Requests: how long each may take, and how the program names itself in them. -/
structure Config.Transport where
  timeoutSecs : Nat := 30
  userAgent : String := defaultUserAgent
deriving Repr, DecidableEq

/-- Submissions to IndexNow; the key and its location are for calls that give none. -/
structure Config.IndexNow where
  endpoint : String := "https://api.indexnow.org/indexnow"
  key? : Option String := none
  keyLocation? : Option String := none
  maxRetries : Nat := 4
  baseDelayMs : Nat := 1000
deriving Repr, DecidableEq

/-- Questions to Perplexity; the key and the model are for calls that give none. -/
structure Config.Perplexity where
  endpoint : String := "https://api.perplexity.ai/chat/completions"
  apiKey? : Option String := none
  model? : Option String := none
deriving Repr, DecidableEq

structure Config.Logging where
  path? : Option String := none
deriving Repr, DecidableEq

structure Config where
  transport : Config.Transport := {}
  indexNow : Config.IndexNow := {}
  perplexity : Config.Perplexity := {}
  logging : Config.Logging := {}
deriving Repr, DecidableEq

namespace Config

/-- A file in a directory, by their names. -/
def fileIn (directory name : String) : String :=
  if directory.toList.getLast? = some '/' then directory ++ name else directory ++ "/" ++ name

/-- Where the log goes: to the given path, or else to a file in the home directory, if there is one.
-/
def Logging.resolvedPath (l : Logging) (home? : Option String) : String :=
  l.path?.getD ((home?.map (fileIn · "crawlsignal.log")).getD "crawlsignal.log")

end Config

end Crawlability
