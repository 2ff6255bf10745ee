import Crawlability.Url.Host

/-!
Absolute addresses. An address has a scheme, for most schemes an authority, a path, and it may have
a query and a fragment. The path is a list of segments, or for addresses such as `mailto:` one
opaque text. All parts are kept in their encoded form, so that printing only joins them.
-/
namespace Crawlability

namespace Url

/-- Who serves an address: the host with the user that logs in there and the port, unless it is the
one that the scheme takes by default. -/
structure Authority where
  username : String := ""
  password : String := ""
  host? : Option Host := none
  port? : Option Nat := none
deriving Repr, DecidableEq

inductive Path where
  | opaqueText (text : String)
  | segments (list : List String)
deriving Repr, DecidableEq

/-- Schemes whose addresses are read by the rules of the web. -/
inductive SchemeKind where
  | file
  | web
  | other
deriving Repr, DecidableEq

namespace SchemeKind

def ofScheme (scheme : String) : SchemeKind :=
  if scheme = "file" then .file
  else if ["http", "https", "ws", "wss", "ftp"].contains scheme then .web
  else .other

/-- A backslash is a slash to the schemes of the web. -/
def isSlash (kind : SchemeKind) (c : Char) : Bool :=
  c == '/' || (kind != .other && c == '\\')

end SchemeKind

/-- The port that goes without saying. -/
def defaultPort? (scheme : String) : Option Nat :=
  if scheme = "http" ∨ scheme = "ws" then some 80
  else if scheme = "https" ∨ scheme = "wss" then some 443
  else if scheme = "ftp" then some 21
  else none

end Url

structure Url where
  scheme : String
  authority? : Option Url.Authority
  path : Url.Path
  query? : Option String
  fragment? : Option String
deriving Repr, DecidableEq

namespace Url

namespace Authority

def userText (a : Authority) : String :=
  if a.username.isEmpty && a.password.isEmpty then ""
  else if a.password.isEmpty then a.username ++ "@"
  else a.username ++ ":" ++ a.password ++ "@"

def portText (a : Authority) : String := (a.port?.map fun port => ":" ++ toString port).getD ""

def text (a : Authority) : String := a.userText ++ (a.host?.map Host.text).getD "" ++ a.portText

end Authority

namespace Path

def text : Path → String
  | .opaqueText text => text
  | .segments list => String.join (list.map ("/" ++ ·))

end Path

def host? (u : Url) : Option Host := u.authority?.bind (·.host?)

def port? (u : Url) : Option Nat := u.authority?.bind (·.port?)

/-- The host with its port, as the addresses of one site share them. -/
def site? (u : Url) : Option String :=
  u.host?.map fun host =>
    match u.port? with
    | some port => host.text ++ ":" ++ toString port
    | none => host.text

/-- What stands between the scheme and the path. A path that begins with an empty segment is kept
from being read as an authority. -/
def authorityText (u : Url) : String :=
  match u.authority?, u.path with
  | some a, _ => "//" ++ a.text
  | none, .segments ("" :: _ :: _) => "/."
  | none, _ => ""

/-- The address up to its fragment. -/
def textWithoutFragment (u : Url) : String :=
  u.scheme ++ ":" ++ u.authorityText ++ u.path.text ++ (u.query?.map ("?" ++ ·)).getD ""

def text (u : Url) : String :=
  u.textWithoutFragment ++ (u.fragment?.map ("#" ++ ·)).getD ""

end Url

end Crawlability
