import Crawlability.Log.Event

/-!
Which events are logged. A filter is a list of limits; each is for the targets that begin with a
name, or for all of them. Of the limits that are for a target, the one with the longest name counts.
-/
namespace Crawlability.Log

structure Limit where
  /-- Targets that begin with this text are meant; with the empty one, all are. -/
  scope : String
  level : Level
deriving Repr, DecidableEq

namespace Limit

def covers (l : Limit) (target : String) : Bool := l.scope.toList.isPrefixOf target.toList

def levelWord (level : Level) : String := (level.name.toList.map Char.toLower |> String.ofList)

/-- The limit as it is written in a filter. -/
def text (l : Limit) : String :=
  if l.scope.isEmpty then levelWord l.level else l.scope ++ "=" ++ levelWord l.level

end Limit

/-- Limits, those with a longer scope first. -/
structure Filter where
  limits : List Limit
deriving Repr, DecidableEq

namespace Filter

def text (f : Filter) : String := String.intercalate "," (f.limits.map Limit.text)

/-- The first limit that covers the target lets the event pass. -/
def passes (f : Filter) (e : Event) : Bool :=
  match f.limits.find? (·.covers e.target) with
  | none => false
  | some limit => e.level.within limit.level

/-- The program's own messages pass one level earlier than those of the rest. -/
def own (level others : Level) : Filter := ⟨[⟨"crawl_signal", level⟩, ⟨"", others⟩]⟩

/-- The filter for a count of verbosity flags; quiet leaves errors only. -/
def ofVerbosity (verbose : Nat) (quiet : Bool) : Filter :=
  if quiet then ⟨[⟨"", .error⟩]⟩
  else match verbose with
    | 0 => own .info .warn
    | 1 => own .debug .info
    | 2 => own .trace .debug
    | _ => ⟨[⟨"", .trace⟩]⟩

end Filter

end Crawlability.Log
