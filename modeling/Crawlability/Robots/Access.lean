import Crawlability.Robots.Document

/-!
Whether a robots file lets an agent fetch a path. The first group that names the agent decides, or
else the first that names `*`. In that group the longest path that the requested one begins with
wins, and of two equally long ones the rule that comes first.
-/
namespace Crawlability.Robots

/-- `unknown` when no group speaks for the agent. -/
inductive Access where
  | allowed
  | blocked
  | unknown
deriving Repr, DecidableEq

namespace Access

def name : Access → String
  | allowed => "allowed"
  | blocked => "blocked"
  | unknown => "unknown"

end Access

/-- The rule has a path and the requested path begins with it. -/
def Rule.appliesTo (r : Rule) (path : String) : Bool :=
  !r.path.isEmpty && r.path.toList.isPrefixOf path.toList

/-- A later rule replaces the best one so far only if its path is longer. -/
def Rule.better (best : Option Rule) (r : Rule) : Rule :=
  match best with
  | none => r
  | some b => if r.path.length ≤ b.path.length then b else r

namespace Group

/-- The first of the longest rules that apply to the path. -/
def deciding? (g : Group) (path : String) : Option Rule :=
  g.rules.foldl (fun best r => if r.appliesTo path then some (Rule.better best r) else best) none

end Group

namespace Document

/-- The group that speaks for the agent, whatever the case of its name. -/
def groupFor? (d : Document) (agent : String) : Option Group :=
  (d.groups.find? (·.names (Text.lowercase agent))).or (d.groups.find? (·.names "*"))

def evaluate (d : Document) (agent path : String) : Access :=
  match d.groupFor? agent with
  | none => .unknown
  | some group =>
    match group.deciding? path with
    | none => .allowed
    | some ⟨.allow, _⟩ => .allowed
    | some ⟨.disallow, _⟩ => .blocked

end Document

end Crawlability.Robots
