import Crawlability.Json.Basic
import Crawlability.Json.Quoted

/-!
The two written forms of a value: the compact one without any blanks, and the one for readers, in
which every item and every member has a line of its own.
-/
namespace Crawlability.Json

def quote (s : String) : List Char := Quoted.encode s.toList

def Number.text (n : Number) : List Char :=
  (if n.negative then ['-'] else []) ++ Nat.toDigits 10 n.mantissa ++
    if n.isWhole then []
    else 'e' :: (if n.exponent < 0 then ['-'] else []) ++ Nat.toDigits 10 n.exponent.natAbs

mutual

def compactChars : Json → List Char
  | null => "null".toList
  | bool true => "true".toList
  | bool false => "false".toList
  | number n => n.text
  | string s => quote s
  | array items => '[' :: compactItems items
  | object members => '\x7b' :: compactMembers members

/-- The items with what stands between and behind them. -/
def compactItems : List Json → List Char
  | [] => [']']
  | [item] => item.compactChars ++ [']']
  | item :: rest => item.compactChars ++ ',' :: compactItems rest

def compactMembers : List (String × Json) → List Char
  | [] => ['\x7d']
  | [(name, value)] => quote name ++ ':' :: value.compactChars ++ ['\x7d']
  | (name, value) :: rest => quote name ++ ':' :: value.compactChars ++ ',' :: compactMembers rest

end

def compact (j : Json) : String := .ofList j.compactChars

/-- A new line, indented by two blanks for each level. -/
def newLine (level : Nat) : List Char := '\n' :: List.replicate (2 * level) ' '

mutual

def prettyChars (level : Nat) : Json → List Char
  | array [] => ['[', ']']
  | object [] => ['\x7b', '\x7d']
  | array items => '[' :: prettyItems level items
  | object members => '\x7b' :: prettyMembers level members
  | null => "null".toList
  | bool true => "true".toList
  | bool false => "false".toList
  | number n => n.text
  | string s => quote s

def prettyItems (level : Nat) : List Json → List Char
  | [] => newLine level ++ [']']
  | item :: rest =>
    newLine (level + 1) ++ prettyChars (level + 1) item ++
      (if rest.isEmpty then [] else [',']) ++ prettyItems level rest

def prettyMembers (level : Nat) : List (String × Json) → List Char
  | [] => newLine level ++ ['\x7d']
  | (name, value) :: rest =>
    newLine (level + 1) ++ quote name ++ ':' :: ' ' :: prettyChars (level + 1) value ++
      (if rest.isEmpty then [] else [',']) ++ prettyMembers level rest

end

def pretty (j : Json) : String := .ofList (j.prettyChars 0)

end Crawlability.Json
