import Crawlability.Text.Utf8

/-!
Percent-encoding: octets written as a percent sign and two hexadecimal digits. Each part of an
address has its own set of ASCII characters that it cannot hold as they are; what lies beyond ASCII
is always encoded.
-/
namespace Crawlability.Url.Percent

/-- An uppercase hexadecimal digit. -/
def hexDigit (n : Nat) : Char :=
  if n < 10 then .ofNat (0x30 + n) else .ofNat (0x41 + (n - 10))

def hexValue? (c : Char) : Option Nat :=
  if c.isDigit then some (c.toNat - 0x30)
  else if 'a' ≤ c ∧ c ≤ 'f' then some (c.toNat - 0x61 + 10)
  else if 'A' ≤ c ∧ c ≤ 'F' then some (c.toNat - 0x41 + 10)
  else none

def encodeOctet (b : UInt8) : List Char := ['%', hexDigit (b.toNat / 16), hexDigit (b.toNat % 16)]

def isControl (c : Char) : Bool := c.toNat < 0x20 || c.toNat == 0x7F

def inFragment (c : Char) : Bool := isControl c || " \"<>`".toList.contains c

def inPath (c : Char) : Bool := inFragment c || "#?\x7b\x7d".toList.contains c

def inUserInfo (c : Char) : Bool := inPath c || "/:;=@[\\]^|".toList.contains c

def inQuery (c : Char) : Bool := isControl c || " \"#<>".toList.contains c

/-- The query of a hierarchical address of the web holds no apostrophe either. -/
def inSpecialQuery (c : Char) : Bool := inQuery c || c == '\''

/-- Encodes the characters of the set and those beyond ASCII. -/
def encodeChar (set : Char → Bool) (c : Char) : List Char :=
  if 0x80 ≤ c.toNat || set c then (String.utf8EncodeChar c).flatMap encodeOctet else [c]

def encode (set : Char → Bool) (s : List Char) : List Char := s.flatMap (encodeChar set)

/-- The octets that a text stands for; a percent sign without two digits stands for itself. -/
def decode : List Char → List UInt8
  | [] => []
  | '%' :: high :: low :: rest =>
    match hexValue? high, hexValue? low with
    | some high, some low => (high * 16 + low).toUInt8 :: decode rest
    | _, _ => '%'.toNat.toUInt8 :: decode (high :: low :: rest)
  | c :: rest => String.utf8EncodeChar c ++ decode rest

end Crawlability.Url.Percent
