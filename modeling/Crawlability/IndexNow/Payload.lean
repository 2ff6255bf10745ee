import Crawlability.Config.Basic
import Crawlability.Error
import Crawlability.Json.Printer
import Crawlability.Json.Tree
import Crawlability.Text.Blank

/-!
The body of a submission. It is resolved from the arguments of a call and from the configuration,
where a blank text counts as none, and it is written as a JSON object of four members.
-/
namespace Crawlability.IndexNow

structure Payload where
  host : String
  key : String
  keyLocation : String
  urls : List String
deriving Repr, DecidableEq

/-- What a caller asks to be submitted. -/
structure Submission where
  urls : List String
  host? : Option String := none
  apiKey? : Option String := none
  keyLocation? : Option String := none
deriving Repr, DecidableEq

namespace Payload

/-- The trimmed text, unless it is missing or nothing is left of it. -/
def present? (text? : Option String) : Option String :=
  (text?.map Text.trim).filter (!·.isEmpty)

/-- The trimmed texts that are addresses, each with the address that it spells. -/
def validUrls (urls : List String) : List (String × Url) :=
  urls.filterMap fun raw =>
    (Url.parse (Text.trim raw)).toOption.map fun url => (Text.trim raw, url)

/-- How many of the texts are no addresses. -/
def droppedCount (urls : List String) : Nat := urls.length - (validUrls urls).length

/-- Arguments come before the configuration. The host is that of the first address and the key is
kept in a file named after it, unless somebody says otherwise. -/
def resolve (s : Submission) (c : Config.IndexNow) : Except Error Payload :=
  match validUrls s.urls with
  | [] => .error (.invalidInput "No valid URLs provided")
  | (first, url) :: rest =>
    match (present? s.host?).or (url.host?.map Url.Host.text) with
    | none => .error (.invalidInput "Missing host; unable to derive from URL")
    | some host =>
      match (present? s.apiKey?).or (present? c.key?) with
      | none => .error (.missingCredential "IndexNow")
      | some key => .ok {
          host, key
          keyLocation := ((present? s.keyLocation?).or (present? c.keyLocation?)).getD
            ("https://" ++ host ++ "/" ++ key ++ ".txt")
          urls := first :: rest.map (·.1) }

def toJson (p : Payload) : Json :=
  .object [("host", .string p.host), ("key", .string p.key), ("keyLocation", .string p.keyLocation),
    ("urlList", .array (p.urls.map .string))]

/-- The payload as it is sent. -/
def wire (p : Payload) : String := p.toJson.compact

def ofTree? (tree : Json.Tree) : Option Payload :=
  match tree.record? ["host", "key", "keyLocation", "urlList"] with
  | some [some host, some key, some keyLocation, some urls] => do
    return {
      host := ← host.text?
      key := ← key.text?
      keyLocation := ← keyLocation.text?
      urls := ← (← urls.items?).mapM Json.Tree.text? }
  | _ => none

/-- The payload that a text spells. -/
def parse? (text : String) : Option Payload := (Json.Tree.ofText? text).bind ofTree?

end Payload

end Crawlability.IndexNow
