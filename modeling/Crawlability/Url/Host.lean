import Crawlability.Url.Idna
import Crawlability.Url.Ipv4
import Crawlability.Url.Ipv6

/-!
Hosts of addresses. In the schemes of the web a host is a domain name, which is brought into ASCII,
or a numeric address; in all other schemes it is taken as it is, and only encoded.
-/
namespace Crawlability

namespace Url

/-- Why a text is not an address. -/
inductive ParseError where
  | relativeWithoutBase
  | emptyHost
  | invalidPort
  | invalidIpv4
  | invalidIpv6
  | invalidDomain
  | invalidDomainCharacter
deriving Repr, DecidableEq

namespace ParseError

def message : ParseError → String
  | relativeWithoutBase => "relative URL without a base"
  | emptyHost => "empty host"
  | invalidPort => "invalid port number"
  | invalidIpv4 => "invalid IPv4 address"
  | invalidIpv6 => "invalid IPv6 address"
  | invalidDomain => "invalid international domain name"
  | invalidDomainCharacter => "invalid domain character"

end ParseError

/-- A name, four octets as one number, or eight pieces of sixteen bits. -/
inductive Host where
  | name (text : String)
  | ipv4 (address : Nat)
  | ipv6 (pieces : List Nat)
deriving Repr, DecidableEq

namespace Host

/-- The host as an address shows it. -/
def text : Host → String
  | name text => text
  | ipv4 address => Ipv4.text address
  | ipv6 pieces => "[" ++ Ipv6.text pieces ++ "]"

/-- Characters that end or divide parts of an address; no host may hold them. -/
def isDelimiter (c : Char) : Bool :=
  "\x00\t\n\r #/:<>?@[\\]^|".toList.contains c

/-- Domain names hold no delimiters, no controls and no percent sign. -/
def isForbiddenInDomain (c : Char) : Bool := isDelimiter c || Percent.isControl c || c == '%'

/-- What stands between square brackets. -/
def bracketed (s : List Char) : Except ParseError Host :=
  if s.getLast? == some ']' then
    match Ipv6.parse? s.dropLast with
    | some pieces => .ok (.ipv6 pieces)
    | none => .error .invalidIpv6
  else .error .invalidIpv6

/-- The domain name or numeric address that a text stands for once it is decoded. -/
def ofDomain (s : List Char) : Except ParseError Host :=
  match Idna.toAscii? (Text.Utf8.decodeLossy (Percent.decode s)).toList with
  | none => .error .invalidDomain
  | some domain =>
    if domain.any isForbiddenInDomain then .error .invalidDomain
    else if domain.isEmpty then .error .emptyHost
    else if Ipv4.endsInNumber domain then
      match Ipv4.parse? domain with
      | some address => .ok (.ipv4 address)
      | none => .error .invalidIpv4
    else .ok (.name (.ofList domain))

/-- The host of a scheme of the web. -/
def parse : List Char → Except ParseError Host
  | '[' :: rest => bracketed rest
  | s => ofDomain s

/-- The host of any other scheme. -/
def parseOpaque : List Char → Except ParseError Host
  | '[' :: rest => bracketed rest
  | s =>
    if s.any isDelimiter then .error .invalidDomainCharacter
    else .ok (.name (.ofList (Percent.encode Percent.isControl s)))

end Host

end Url

end Crawlability
