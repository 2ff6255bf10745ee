import Crawlability.Json.Printer
import Crawlability.Json.Tree

/-!
The bodies of a chat: a request names a model and holds the messages so far, and a response offers
choices of the next message.
-/
namespace Crawlability.Perplexity

structure Message where
  role : String
  content : String
deriving Repr, DecidableEq

structure ChatRequest where
  model : String
  messages : List Message
deriving Repr, DecidableEq

structure Choice where
  index : Nat := 0
  message : Message
deriving Repr, DecidableEq

structure ChatResponse where
  choices : List Choice
deriving Repr, DecidableEq

namespace Message

def ofUser (content : String) : Message := ⟨"user", content⟩

def toJson (m : Message) : Json :=
  .object [("role", .string m.role), ("content", .string m.content)]

def ofTree? (tree : Json.Tree) : Option Message :=
  match tree.record? ["role", "content"] with
  | some [some role, some content] => do
    return { role := ← role.text?, content := ← content.text? }
  | _ => none

end Message

namespace ChatRequest

def toJson (r : ChatRequest) : Json :=
  .object [("model", .string r.model), ("messages", .array (r.messages.map Message.toJson))]

/-- The request as it is sent. -/
def wire (r : ChatRequest) : String := r.toJson.compact

def ofTree? (tree : Json.Tree) : Option ChatRequest :=
  match tree.record? ["model", "messages"] with
  | some [some model, some messages] => do
    return { model := ← model.text?, messages := ← (← messages.items?).mapM Message.ofTree? }
  | _ => none

/-- The request that a text spells. -/
def parse? (text : String) : Option ChatRequest := (Json.Tree.ofText? text).bind ofTree?

end ChatRequest

/-- A choice may leave out its index. -/
def Choice.ofTree? (tree : Json.Tree) : Option Choice :=
  match tree.record? ["index", "message"] with
  | some [none, some message] => do
    return { message := ← Message.ofTree? message }
  | some [some index, some message] => do
    return { index := ← index.word?, message := ← Message.ofTree? message }
  | _ => none

namespace ChatResponse

def ofTree? (tree : Json.Tree) : Option ChatResponse :=
  match tree.record? ["choices"] with
  | some [some choices] => do
    return { choices := ← (← choices.items?).mapM Choice.ofTree? }
  | _ => none

/-- The response that octets spell. -/
def parse? (octets : List UInt8) : Option ChatResponse := (Json.Tree.ofOctets? octets).bind ofTree?

end ChatResponse

end Crawlability.Perplexity
