import Crawlability.CommandLine.Run
import Crawlability.Files.Tree
import Crawlability.Log.Line

/-!
A host that is a value: a tree of files, a network, and what the program did so far.
-/
namespace Crawlability.CommandLine

structure Memory where
  tree : Files.Tree
  /-- The file that the log goes to, once it is open. -/
  log? : Option Files.Place := none
  /-- What was echoed on the error stream. -/
  stream : String := ""
  acts : List Session.Act := []
deriving Repr, DecidableEq

namespace Memory

def openLog (here : Files.Place) (path : String) (memory : Memory) :
    Except Files.Error Unit × Memory :=
  match memory.tree.openToAppend here (.ofText path) with
  | (tree, .error e) => (.error e, { memory with tree })
  | (tree, .ok place) => (.ok (), { memory with tree, log? := some place })

def perform (n : Network) (stamp : Log.Stamp) (filter : Log.Filter) (echoes : Bool)
    (session : Session Ending) (memory : Memory) : Ending × Memory :=
  let (ending, acts) := session.run n (Session.requests memory.acts)
  let records := (Session.events acts).map fun event => (⟨stamp, event⟩ : Log.Record)
  let lines := Text.Utf8.encode (filter.write records)
  let tree := match memory.log? with
    | some place => memory.tree.append place lines
    | none => memory.tree
  let stream := memory.stream ++ if echoes then filter.writeStream records else ""
  (ending, { memory with tree, stream, acts := memory.acts ++ acts })

/-- The host in a working directory of the tree, where all events have one time. -/
def host (n : Network) (environment : Config.Environment) (home? : Option String)
    (here : Files.Place) (stamp : Log.Stamp) : Host (StateM Memory) where
  environment := environment
  home? := home?
  readFile path := fun memory => (memory.tree.read here (.ofText path), memory)
  openLog path := openLog here path
  perform filter echoes session := perform n stamp filter echoes session

end Memory

end Crawlability.CommandLine
