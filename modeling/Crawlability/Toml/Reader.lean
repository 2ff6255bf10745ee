import Crawlability.Toml.Draft
import Crawlability.Toml.Scalar

/-!
Reading TOML documents. A document is a list of lines: headers, and keys with their values, each of
which ends its line. Arrays and inline tables may stand inside one another, and keys have parts, to
a bounded depth.
-/
namespace Crawlability.Toml

/-- Arrays and inline tables may be nested less deeply than this, and keys have fewer parts. -/
def depthLimit : Nat := 80

/-- What follows a comment, if one stands at the head of the input. -/
def skipComment : List Char → List Char
  | '#' :: rest => rest.dropWhile isLineChar
  | s => s

/-- What follows the end of a line, on which nothing but a comment may be left. -/
def afterLine? (s : List Char) : Option (List Char) :=
  match skipComment (skipSpace s) with
  | [] => some []
  | s => afterNewline? s

/-- Passes over blanks, comments and line ends; each step passes over a line. -/
def skipLines : Nat → List Char → List Char
  | 0, s => skipSpace s
  | steps + 1, s =>
    match skipSpace s with
    | [] => []
    | s =>
      match afterLine? s with
      | some rest => skipLines steps rest
      | none => s

def isBareChar (c : Char) : Bool := c.isAlphanum || c == '_' || c == '-'

/-- One part of a key: bare, or a string of one line. -/
def readKeyPart? : List Char → Reading String
  | '"' :: rest => (readBasic rest).map fun (s, rest) => (.ofList s, rest)
  | '\'' :: rest => (readLiteral rest).map fun (s, rest) => (.ofList s, rest)
  | s =>
    if s.head?.any isBareChar then
      some (.ofList (s.takeWhile isBareChar), s.dropWhile isBareChar)
    else none

/-- A key of at most so many parts, which stand between points, with the blanks around it. -/
def readKey? : Nat → List Char → Reading (List String)
  | 0, _ => none
  | parts + 1, s =>
    match readKeyPart? (skipSpace s) with
    | none => none
    | some (part, rest) =>
      match skipSpace rest with
      | '.' :: rest => (readKey? parts rest).map fun (key, rest) => (part :: key, rest)
      | rest => some ([part], rest)

/-- The path to the table of a key and the last part, which names the value. -/
def splitLast (key : List String) : List String × String := (key.dropLast, key.getLast?.getD "")

mutual

/-- Reads a value; `depth` bounds the containers inside it, and every two steps take a character. -/
def readValue? (depth : Nat) : Nat → List Char → Reading Toml
  | 0, _ => none
  | steps + 1, s =>
    match s with
    | '[' :: rest =>
      match depth with
      | 0 => none
      | depth + 1 => (readItems? depth steps rest).map fun (items, rest) => (.array items, rest)
    | '\x7b' :: rest =>
      match depth with
      | 0 => none
      | depth + 1 =>
        match skipSpace rest with
        | '\x7d' :: rest => some (.table [], rest)
        | rest =>
          (readPairs? depth steps [] rest).map fun (entries, rest) =>
            (.table (Draft.finishEntries entries), rest)
    | s => readScalar? s

/-- Reads the items of an array up to the closing bracket, before which a comma may stand. -/
def readItems? (depth : Nat) : Nat → List Char → Reading (List Toml)
  | 0, _ => none
  | steps + 1, s =>
    match skipLines steps s with
    | ']' :: rest => some ([], rest)
    | s =>
      match readValue? depth steps s with
      | none => none
      | some (item, rest) =>
        match skipLines steps rest with
        | ']' :: rest => some ([item], rest)
        | ',' :: rest =>
          (readItems? depth steps rest).map fun (items, rest) => (item :: items, rest)
        | _ => none

/-- Reads the pairs of an inline table up to the closing brace; there is at least one. -/
def readPairs? (depth : Nat) : Nat → Draft.Entries → List Char → Reading Draft.Entries
  | 0, _, _ => none
  | steps + 1, entries, s =>
    match readKey? (depthLimit - 1) s with
    | some (key, '=' :: rest) =>
      match readValue? depth steps (skipSpace rest) with
      | none => none
      | some (value, rest) =>
        let (path, last) := splitLast key
        match Draft.insert? value last path true .header entries with
        | none => none
        | some entries =>
          match skipSpace rest with
          | '\x7d' :: rest => some (entries, rest)
          | ',' :: rest => readPairs? depth steps entries rest
          | _ => none
    | _ => none

end

/-- A document that is being read: its tables and the path of the one that is open. -/
structure Document where
  root : Draft.Entries := []
  current : List String := []
deriving Repr

namespace Document

/-- Reads one line that is not blank. -/
def readLine? (d : Document) (s : List Char) : Reading Document :=
  match s with
  | '[' :: '[' :: rest =>
    match readKey? (depthLimit - 1) rest with
    | some (key, ']' :: ']' :: rest) =>
      let (path, last) := splitLast key
      match Draft.modify? (Draft.openElement? last) path d.root, afterLine? rest with
      | some root, some rest => some (⟨root, key⟩, rest)
      | _, _ => none
    | _ => none
  | '[' :: rest =>
    match readKey? (depthLimit - 1) rest with
    | some (key, ']' :: rest) =>
      let (path, last) := splitLast key
      match Draft.modify? (Draft.openTable? last) path d.root, afterLine? rest with
      | some root, some rest => some (⟨root, key⟩, rest)
      | _, _ => none
    | _ => none
  | s =>
    match readKey? (depthLimit - 1) s with
    | some (key, '=' :: rest) =>
      match readValue? (depthLimit - 1) (2 * s.length + 2) (skipSpace rest) with
      | none => none
      | some (value, rest) =>
        let (path, last) := splitLast key
        let insert := Draft.insert? value last path true .header
        match Draft.modify? insert d.current d.root, afterLine? rest with
        | some root, some rest => some ({ d with root }, rest)
        | _, _ => none
    | _ => none

/-- Reads the lines that are left, one in each step. -/
def run : Nat → Document → List Char → Option Document
  | 0, d, s => if s.isEmpty then some d else none
  | steps + 1, d, s =>
    match skipLines s.length s with
    | [] => some d
    | s =>
      match d.readLine? s with
      | none => none
      | some (d, rest) => run steps d rest

end Document

/-- The entries of the table that a document spells. A byte order mark may stand in front of it. -/
def parse? (text : String) : Option (List (String × Toml)) :=
  let s := text.toList
  let s := if s.head? == some '\uFEFF' then s.drop 1 else s
  (Document.run (s.length + 1) {} s).map fun d => Draft.finishEntries d.root

end Crawlability.Toml
