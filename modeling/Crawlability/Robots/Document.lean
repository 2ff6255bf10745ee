import Crawlability.Text.Blank
import Crawlability.Text.Lowercase

/-!
The robots exclusion file as a list of groups. Reading goes through `Entry`: each line of the text
is an entry or nothing, and `Document.ofEntries` gathers the entries into groups. A group is closed
by the first `User-agent` line after one of its rules, so agents in a row share their rules; rules
that no agent precedes belong to the agent `*`.

Only `User-agent`, `Allow` and `Disallow` count. Paths are kept as written, wildcards included.
-/
namespace Crawlability.Robots

inductive Directive where
  | allow
  | disallow
deriving Repr, DecidableEq

/-- A path prefix that a group allows or disallows. -/
structure Rule where
  directive : Directive
  path : String
deriving Repr, DecidableEq

/-- Agents, in lowercase, and the rules they share, both in the order of the file. -/
structure Group where
  agents : List String := []
  rules : List Rule := []
deriving Repr, DecidableEq

structure Document where
  groups : List Group := []
deriving Repr, DecidableEq

/-- What one line of the file says. -/
inductive Entry where
  | agent (name : String)
  | rule (rule : Rule)
deriving Repr, DecidableEq

namespace Entry

/-- The field name and the value around the first colon, both trimmed. -/
def splitField? (line : List Char) : Option (List Char × List Char) :=
  match line.dropWhile (· != ':') with
  | [] => none
  | _ :: value => some (Text.trimChars (line.takeWhile (· != ':')), Text.trimChars value)

/-- Lines without a colon, comments and lines with any other field say nothing. -/
def ofLine? (line : List Char) : Option Entry :=
  let line := Text.trimChars line
  if line.head? == some '#' then none
  else match splitField? line with
    | none => none
    | some (field, value) =>
      let field := String.ofList (Text.lowercaseChars field)
      if field = "user-agent" then some (.agent (.ofList (Text.lowercaseChars value)))
      else if field = "allow" then some (.rule ⟨.allow, .ofList value⟩)
      else if field = "disallow" then some (.rule ⟨.disallow, .ofList value⟩)
      else none

end Entry

namespace Group

/-- The group names the agent, given in lowercase. -/
def names (g : Group) (agent : String) : Bool := g.agents.contains agent

def addAgent (g : Group) (name : String) : Group := { g with agents := g.agents ++ [name] }

/-- A rule without an agent before it is meant for all. -/
def addRule (g : Group) (rule : Rule) : Group where
  agents := if g.agents.isEmpty then ["*"] else g.agents
  rules := g.rules ++ [rule]

end Group

namespace Document

/-- The groups that remain to be closed, `current` being the one that is open. -/
def groupsFrom (current : Group) : List Entry → List Group
  | [] => if current.agents.isEmpty then [] else [current]
  | .agent name :: rest =>
    if !current.agents.isEmpty && !current.rules.isEmpty then
      current :: groupsFrom { agents := [name] } rest
    else groupsFrom (current.addAgent name) rest
  | .rule rule :: rest => groupsFrom (current.addRule rule) rest

def ofEntries (entries : List Entry) : Document := ⟨groupsFrom {} entries⟩

/-- A line feed ends a line, and so does a carriage return. -/
def lines (text : String) : List (List Char) :=
  text.toList.splitOnP fun c => c == '\r' || c == '\n'

/-- The entries of the text, in order. -/
def entries (text : String) : List Entry := (lines text).filterMap Entry.ofLine?

/-- Every text is a robots file: lines that say nothing are passed over. -/
def parse (text : String) : Document := ofEntries (entries text)

def isEmpty (d : Document) : Bool := d.groups.isEmpty

end Document

end Crawlability.Robots
