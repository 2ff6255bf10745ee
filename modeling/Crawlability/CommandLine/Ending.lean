import Crawlability.CommandLine.Invocation
import Crawlability.Tool.Registry

/-!
What a command does and how the program ends. Every command but the one that lists the tools is a
call of a tool, with arguments made from the command line.
-/
namespace Crawlability.CommandLine

/-- The exit status and the texts on the two streams, echoed messages apart. -/
structure Ending where
  status : Nat
  output : String := ""
  errors : String := ""
deriving Repr, DecidableEq

def versionText : String := "crawl-signal 0.1.0\n"

def usageText : String :=
  "AI crawler visibility checks\n\nUsage: crawl-signal [OPTIONS] <COMMAND>\n\nCommands:\n" ++
  "  audit [--skip-robots] <URL>\n" ++
  "  submit [--host <HOST>] [--key <KEY>] [--key-location <URL>] <URL>...\n" ++
  "  perplexity [--key <KEY>] [--model <MODEL>] <URL>\n  tools\n  call <TOOL> [JSON]\n\n" ++
  "Options:\n  --config <FILE>\n  --log-file <FILE>\n  -v, --verbose\n  -q, --quiet\n" ++
  "  -h, --help\n  -V, --version\n"

def Stop.ending : Stop → Ending
  | .usage => { status := 2, errors := usageText }
  | .help => { status := 0, output := usageText }
  | .version => { status := 0, output := versionText }

namespace Ending

/-- The lines of a text below one another, behind so many blanks. -/
def indentRest (size : Nat) (text : String) : String :=
  let chars := text.toList.flatMap fun c =>
    if c = '\n' then '\n' :: List.replicate size ' ' else [c]
  .ofList chars

/-- Causes with their numbers. -/
def numbered : Nat → List String → String
  | _, [] => ""
  | n, cause :: rest =>
    "\n    " ++ toString n ++ ": " ++ indentRest 7 cause ++ numbered (n + 1) rest

/-- What led to a failure, the nearest cause first; a single one has no number. -/
def causesText : List String → String
  | [] => ""
  | [cause] => "\n\nCaused by:\n    " ++ indentRest 4 cause
  | causes => "\n\nCaused by:" ++ numbered 0 causes

/-- The program gives up. -/
def failure (message : String) (causes : List String) : Ending where
  status := 1
  errors := "Error: " ++ message ++ causesText causes ++ "\n"

def ofResult (r : Tool.Result) : Ending :=
  if r.isError then { status := 1, errors := r.text ++ "\n" }
  else { status := 0, output := r.text ++ "\n" }

end Ending

/-- What a command comes down to. -/
inductive Plan where
  | listTools
  | callTool (name : String) (args : Json)
  /-- The arguments for a tool are the text of no value. -/
  | badArguments (name : String)

/-- The members for the options that are given. -/
def optionalMembers (options : List (String × Option String)) : List (String × Json) :=
  options.filterMap fun (name, value?) => value?.map fun value => (name, .string value)

namespace Command

def plan : Command → Plan
  | tools => .listTools
  | audit url skipRobots =>
    .callTool Tool.auditPage.name
      (.object [("url", .string url), ("checkRobotsTxt", .bool !skipRobots)])
  | submit s =>
    .callTool Tool.submitUrls.name
      (.object (("urls", .array (s.urls.map .string)) :: optionalMembers
        [("host", s.host?), ("apiKey", s.apiKey?), ("keyLocation", s.keyLocation?)]))
  | perplexity c =>
    .callTool Tool.checkPerplexity.name
      (.object (("url", .string c.url) ::
        optionalMembers [("apiKey", c.apiKey?), ("model", c.model?)]))
  | call name none => .callTool name (.object [])
  | call name (some text) =>
    match Json.parse? text with
    | some args => .callTool name args
    | none => .badArguments name

/-- Runs the command under a configuration, once the log is open. -/
def session (c : Command) (config : Config) : Session Ending := do
  Session.say ⟨"crawl_signal", .info, "Starting Crawl Signal 0.1.0"⟩
  match c.plan with
  | .listTools => return { status := 0, output := Tool.listing.pretty ++ "\n" }
  | .badArguments name =>
    return .failure ("Arguments for " ++ name ++ " are not valid JSON") ["no value can be read"]
  | .callTool name args =>
    match Tool.Registry.ofConfig config with
    | .error e => return .failure e.message []
    | .ok registry => return .ofResult (← registry.call name (some args))

end Command

end Crawlability.CommandLine
