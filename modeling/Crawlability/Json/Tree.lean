import Crawlability.Json.Basic
import Crawlability.Json.Quoted
import Crawlability.Text.Utf8

/-!
What a JSON text spells, before anything is asked of it. A tree keeps every member of an object, and
it says of a string only whether it is a text: strings may hold lone surrogates and octets that are
no UTF-8, as long as nobody wants to know them. Numbers may be of any size and nesting of any depth.

A tree becomes a value when all its strings are texts, its numbers are finite as doubles and its
depth is bounded. Records are read from a tree directly.
-/
namespace Crawlability.Json

inductive Tree where
  | null
  | bool (value : Bool)
  | number (value : Number)
  /-- A string, with its text unless it is ill-formed. -/
  | string (text? : Option String)
  | array (items : List Tree)
  | object (members : List (Option String × Tree))
deriving Repr

namespace Tree

/-- The input: characters, and marks for what is no character. -/
abbrev Input := List (Option Char)

def isSpace : Option Char → Bool
  | some c => c == ' ' || c == '\t' || c == '\n' || c == '\r'
  | none => false

def skipSpace (s : Input) : Input := s.dropWhile isSpace

def isDigit : Option Char → Bool
  | some c => c.isDigit
  | none => false

/-- The number that the digits at the head spell, with their count, and what follows. -/
def readDigits (s : Input) : Nat × Nat × Input :=
  let digits := s.takeWhile isDigit
  (digits.foldl (fun n c => n * 10 + ((c.getD '0').toNat - 0x30)) 0, digits.length,
    s.dropWhile isDigit)

/-- The whole part of a number: no zero leads any other digit. -/
def readWhole? (s : Input) : Option (Nat × Input) :=
  let (n, size, rest) := readDigits s
  if size = 0 || (1 < size && s.head? == some (some '0')) then none else some (n, rest)

/-- The mantissa, with the number of places that the fraction takes. -/
def readFraction? (whole : Nat) : Input → Option (Nat × Nat × Input)
  | some '.' :: rest =>
    let (n, size, rest) := readDigits rest
    if size = 0 then none else some (whole * Nat.pow 10 size + n, size, rest)
  | s => some (whole, 0, s)

def readExponent? : Input → Option (Int × Input)
  | some 'e' :: rest | some 'E' :: rest =>
    let (negative, rest) := match rest with
      | some '-' :: rest => (true, rest)
      | some '+' :: rest => (false, rest)
      | rest => (false, rest)
    let (n, size, rest) := readDigits rest
    if size = 0 then none else some (if negative then -n else n, rest)
  | s => some (0, s)

def readNumber? (s : Input) : Option (Number × Input) :=
  let (negative, s) := match s with
    | some '-' :: rest => (true, rest)
    | s => (false, s)
  match readWhole? s with
  | none => none
  | some (whole, afterWhole) =>
    match readFraction? whole afterWhole with
    | none => none
    | some (mantissa, places, afterFraction) =>
      match readExponent? afterFraction with
      | none => none
      | some (exponent, rest) =>
        let isWhole := rest.length == afterWhole.length
        some (⟨⟨negative, mantissa, exponent - places⟩, isWhole⟩, rest)

/-- What follows a word at the head of the input. -/
def afterWord? (word : String) (s : Input) : Option Input :=
  let size := word.toList.length
  if s.take size = word.toList.map some then some (s.drop size) else none

mutual

/-- Reads a value; every two steps take at least one character. -/
def read? : Nat → Input → Option (Tree × Input)
  | 0, _ => none
  | steps + 1, s =>
    match skipSpace s with
    | [] => none
    | some '"' :: rest =>
      (Quoted.read rest).map fun (pieces, rest) => (.string (Quoted.text? pieces), rest)
    | some '[' :: rest =>
      match skipSpace rest with
      | some ']' :: rest => some (.array [], rest)
      | rest => (readItems? steps rest).map fun (items, rest) => (.array items, rest)
    | some '\x7b' :: rest =>
      match skipSpace rest with
      | some '\x7d' :: rest => some (.object [], rest)
      | rest => (readMembers? steps rest).map fun (members, rest) => (.object members, rest)
    | some 'n' :: rest => (afterWord? "ull" rest).map (.null, ·)
    | some 't' :: rest => (afterWord? "rue" rest).map (.bool true, ·)
    | some 'f' :: rest => (afterWord? "alse" rest).map (.bool false, ·)
    | s => (readNumber? s).map fun (n, rest) => (.number n, rest)

/-- Reads items up to the closing bracket; there is at least one. -/
def readItems? : Nat → Input → Option (List Tree × Input)
  | 0, _ => none
  | steps + 1, s =>
    match read? steps s with
    | none => none
    | some (item, rest) =>
      match skipSpace rest with
      | some ']' :: rest => some ([item], rest)
      | some ',' :: rest =>
        (readItems? steps rest).map fun (items, rest) => (item :: items, rest)
      | _ => none

/-- Reads members up to the closing brace; there is at least one. -/
def readMembers? : Nat → Input → Option (List (Option String × Tree) × Input)
  | 0, _ => none
  | steps + 1, s =>
    match skipSpace s with
    | some '"' :: rest =>
      match Quoted.read rest with
      | none => none
      | some (pieces, rest) =>
        match skipSpace rest with
        | some ':' :: rest =>
          match read? steps rest with
          | none => none
          | some (value, rest) =>
            let member := (Quoted.text? pieces, value)
            match skipSpace rest with
            | some '\x7d' :: rest => some ([member], rest)
            | some ',' :: rest =>
              (readMembers? steps rest).map fun (members, rest) => (member :: members, rest)
            | _ => none
        | _ => none
    | _ => none

end

/-- The tree of a whole input. -/
def ofInput? (s : Input) : Option Tree :=
  match read? (2 * s.length + 2) s with
  | none => none
  | some (tree, rest) => if (skipSpace rest).isEmpty then some tree else none

def ofText? (s : String) : Option Tree := ofInput? (s.toList.map some)

def ofOctets? (octets : List UInt8) : Option Tree := ofInput? (Text.Utf8.read octets)

mutual

/-- The value of a tree with at most `depth` containers inside one another. -/
def value? (depth : Nat) : Tree → Option Json
  | null => some .null
  | bool b => some (.bool b)
  | number n => if n.isFinite then some (.number n) else none
  | string none => none
  | string (some s) => some (.string s)
  | array items =>
    match depth with
    | 0 => none
    | depth + 1 => (values? depth items).map .array
  | object members =>
    match depth with
    | 0 => none
    | depth + 1 => (memberValues? depth members).map .object

def values? (depth : Nat) : List Tree → Option (List Json)
  | [] => some []
  | item :: rest =>
    match item.value? depth, values? depth rest with
    | some item, some rest => some (item :: rest)
    | _, _ => none

def memberValues? (depth : Nat) : List (Option String × Tree) → Option (List (String × Json))
  | [] => some []
  | (none, _) :: _ => none
  | (some name, value) :: rest =>
    match value.value? depth, memberValues? depth rest with
    | some value, some rest => some ((name, value) :: rest)
    | _, _ => none

end

/-- Containers may stand inside one another to this depth in a value. -/
def maxDepth : Nat := 127

/-- The text of a string. -/
def text? : Tree → Option String
  | string text? => text?
  | _ => none

/-- The number, if it is a whole one of at most 32 bits. -/
def word? : Tree → Option Nat
  | number n => n.natural?.filter (· < Nat.pow 2 32)
  | _ => none

def items? : Tree → Option (List Tree)
  | array items => some items
  | _ => none

/-- The one member of the name; two of them are an error, which is told apart from none. -/
def member? (name : String) : List (Option String × Tree) → Option (Option Tree)
  | members =>
    match members.filter (·.1 == some name) with
    | [] => some none
    | [(_, value)] => some (some value)
    | _ => none

/-- The fields of a record in their order, those that are missing as `none`. A record is an object
whose names are all well-formed, or an array of its fields from the first on. -/
def record? (names : List String) : Tree → Option (List (Option Tree))
  | object members =>
    if members.all (·.1.isSome) then names.mapM (member? · members) else none
  | array items =>
    if items.length ≤ names.length then
      some (items.map some ++ List.replicate (names.length - items.length) none)
    else none
  | _ => none

end Tree

/-- The value that a text spells. -/
def parse? (s : String) : Option Json := (Tree.ofText? s).bind (Tree.value? Tree.maxDepth)

end Crawlability.Json
