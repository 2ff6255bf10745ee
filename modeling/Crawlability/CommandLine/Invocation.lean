import Crawlability.CommandLine.Grammar
import Crawlability.IndexNow.Payload
import Crawlability.Perplexity.Client

/-!
What the arguments of the program ask for: options that hold for every command, and one command with
its own.
-/
namespace Crawlability.CommandLine

inductive Command where
  | audit (url : String) (skipRobots : Bool)
  | submit (submission : IndexNow.Submission)
  | perplexity (check : Perplexity.Check)
  /-- Lists the tools. -/
  | tools
  /-- Calls a tool with the text of a JSON value. -/
  | call (tool : String) (arguments? : Option String)
deriving Repr, DecidableEq

structure Invocation where
  config? : Option String := none
  logFile? : Option String := none
  verbose : Nat := 0
  quiet : Bool := false
  command : Command
deriving Repr, DecidableEq

namespace Invocation

/-- The options that hold for every command. -/
def general : Grammar where
  switches := [⟨"config", none, .path⟩, ⟨"log-file", none, .path⟩, ⟨"verbose", some 'v', .tally⟩,
    ⟨"quiet", some 'q', .nothing⟩]
  maxPositional? := some 0
  endsAtCommand := true
  hasVersion := true

def ofAudit (args : List String) : Except Stop Command :=
  let grammar : Grammar := {
    switches := [⟨"skip-robots", none, .nothing⟩], maxPositional? := some 1 }
  match grammar.read args with
  | .error stop => .error stop
  | .ok (items, _) =>
    match items.positionals with
    | [url] => .ok (.audit url (items.has "skip-robots"))
    | _ => .error .usage

def ofSubmit (args : List String) : Except Stop Command :=
  let grammar : Grammar := {
    switches := [⟨"host", none, .text⟩, ⟨"key", none, .text⟩, ⟨"key-location", none, .text⟩]
    maxPositional? := none }
  match grammar.read args with
  | .error stop => .error stop
  | .ok (items, _) =>
    match items.positionals with
    | [] => .error .usage
    | urls => .ok (.submit {
        urls
        host? := items.value? "host"
        apiKey? := items.value? "key"
        keyLocation? := items.value? "key-location" })

def ofPerplexity (args : List String) : Except Stop Command :=
  let grammar : Grammar := {
    switches := [⟨"key", none, .text⟩, ⟨"model", none, .text⟩], maxPositional? := some 1 }
  match grammar.read args with
  | .error stop => .error stop
  | .ok (items, _) =>
    match items.positionals with
    | [url] => .ok (.perplexity ⟨url, items.value? "key", items.value? "model"⟩)
    | _ => .error .usage

def ofTools (args : List String) : Except Stop Command :=
  let grammar : Grammar := { switches := [], maxPositional? := some 0 }
  match grammar.read args with
  | .error stop => .error stop
  | .ok _ => .ok .tools

def ofCall (args : List String) : Except Stop Command :=
  let grammar : Grammar := { switches := [], maxPositional? := some 2 }
  match grammar.read args with
  | .error stop => .error stop
  | .ok (items, _) =>
    match items.positionals with
    | [tool] => .ok (.call tool none)
    | [tool, arguments] => .ok (.call tool (some arguments))
    | _ => .error .usage

def commandNames : List String := ["audit", "submit", "perplexity", "tools", "call", "help"]

/-- Help on all commands or on one; commands have no parts with a help of their own. -/
def ofHelp : List String → Except Stop Command
  | [] => .error .help
  | [name] => .error (if commandNames.contains name then .help else .usage)
  | _ => .error .usage

def ofCommand (name : String) (args : List String) : Except Stop Command :=
  if name = "audit" then ofAudit args
  else if name = "submit" then ofSubmit args
  else if name = "perplexity" then ofPerplexity args
  else if name = "tools" then ofTools args
  else if name = "call" then ofCall args
  else if name = "help" then ofHelp args
  else .error .usage

/-- Reads the arguments of the program. One cannot ask for more messages and for fewer. -/
def parse (args : List String) : Except Stop Invocation :=
  match general.read args with
  | .error stop => .error stop
  | .ok (_, []) => .error .usage
  | .ok (items, name :: rest) =>
    match ofCommand name rest with
    | .error stop => .error stop
    | .ok command =>
      let verbose := items.count "verbose"
      let quiet := items.has "quiet"
      if quiet && 0 < verbose then .error .usage
      else .ok ⟨items.value? "config", items.value? "log-file", verbose, quiet, command⟩

end Invocation

end Crawlability.CommandLine
