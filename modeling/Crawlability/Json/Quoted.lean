import Crawlability.Url.Percent

/-!
Quoted strings: a quote, a backslash and the controls are written as escapes, all else as it is.
-/
namespace Crawlability.Json.Quoted

/-- A lowercase hexadecimal digit. -/
def hexDigit (n : Nat) : Char :=
  if n < 10 then .ofNat (0x30 + n) else .ofNat (0x61 + (n - 10))

def escape (c : Char) : List Char :=
  if c = '"' then ['\\', '"']
  else if c = '\\' then ['\\', '\\']
  else if c = '\x08' then ['\\', 'b']
  else if c = '\t' then ['\\', 't']
  else if c = '\n' then ['\\', 'n']
  else if c = '\x0c' then ['\\', 'f']
  else if c = '\r' then ['\\', 'r']
  else if c.toNat < 0x20 then
    ['\\', 'u', '0', '0', hexDigit (c.toNat / 16), hexDigit (c.toNat % 16)]
  else [c]

/-- The characters between their quotes. -/
def encode (s : List Char) : List Char := '"' :: s.flatMap escape ++ ['"']

/-- The character that a letter behind a backslash stands for. -/
def unescape? (c : Char) : Option Char :=
  if c = '"' then some '"'
  else if c = '\\' then some '\\'
  else if c = '/' then some '/'
  else if c = 'b' then some '\x08'
  else if c = 'f' then some '\x0c'
  else if c = 'n' then some '\n'
  else if c = 'r' then some '\r'
  else if c = 't' then some '\t'
  else none

/-- What a string is made of: characters as they are, units of sixteen bits that are given by
number, and pieces that are no character. -/
inductive Piece where
  | char (c : Char)
  | unit (code : Nat)
  | mark
deriving Repr, DecidableEq

def hexValue? : Option Char → Option Nat
  | none => none
  | some c => Url.Percent.hexValue? c

/-- The number that four hexadecimal digits spell. -/
def unit? (a b c d : Option Char) : Option Nat :=
  match hexValue? a, hexValue? b, hexValue? c, hexValue? d with
  | some a, some b, some c, some d => some (((a * 16 + b) * 16 + c) * 16 + d)
  | _, _, _, _ => none

/-- Reads up to the closing quote. A marked piece of the input stays a mark; a control is refused.
-/
def read : List (Option Char) → Option (List Piece × List (Option Char))
  | [] => none
  | none :: rest => (read rest).map fun (pieces, rest) => (.mark :: pieces, rest)
  | some '\\' :: some 'u' :: a :: b :: c :: d :: rest =>
    match unit? a b c d with
    | none => none
    | some code => (read rest).map fun (pieces, rest) => (.unit code :: pieces, rest)
  | some '\\' :: some e :: rest =>
    match unescape? e with
    | none => none
    | some c => (read rest).map fun (pieces, rest) => (.char c :: pieces, rest)
  | some c :: rest =>
    if c = '"' then some ([], rest)
    else if c = '\\' || c.toNat < 0x20 then none
    else (read rest).map fun (pieces, rest) => (.char c :: pieces, rest)

def isHighSurrogate (n : Nat) : Bool := 0xD800 ≤ n && n < 0xDC00

def isLowSurrogate (n : Nat) : Bool := 0xDC00 ≤ n && n < 0xE000

/-- The characters of the pieces; two surrogates in their order make up one character, and a
surrogate that stands alone is none. -/
def join : List Piece → List (Option Char)
  | [] => []
  | .char c :: rest => some c :: join rest
  | .mark :: rest => none :: join rest
  | .unit high :: .unit low :: rest =>
    if isHighSurrogate high && isLowSurrogate low then
      some (.ofNat (0x10000 + (high - 0xD800) * 0x400 + (low - 0xDC00))) :: join rest
    else if isHighSurrogate high || isLowSurrogate high then none :: join (.unit low :: rest)
    else some (.ofNat high) :: join (.unit low :: rest)
  | .unit code :: rest =>
    if isHighSurrogate code || isLowSurrogate code then none :: join rest
    else some (.ofNat code) :: join rest

/-- The text of the pieces, if every one of them is a character. -/
def text? (pieces : List Piece) : Option String := ((join pieces).mapM id).map .ofList

end Crawlability.Json.Quoted
