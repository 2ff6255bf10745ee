import Crawlability.Text.Blank
import Crawlability.Text.Word

/-!
Searching a text for spans of a given shape. A shape is a function that tells, of the text from some
point on, whether a span begins there, what it is and how many characters it takes. The search takes
the leftmost span, goes on behind it and never reads a character twice.

The shapes of this library are the pieces of markup that matter to crawlers: opening tags of one
name, whole tags, and attributes with a value in double quotes.
-/
namespace Crawlability.Page

/-- What a shape finds at the head of a text, with the length of the span. -/
abbrev Shape (α : Type) := List Char → Option (α × Nat)

namespace Shape

variable {α : Type}

/-- Searches after passing over `skip` characters. -/
def findAllFrom (shape : Shape α) : Nat → List Char → List α
  | _, [] => []
  | skip + 1, _ :: rest => shape.findAllFrom skip rest
  | 0, c :: rest =>
    match shape (c :: rest) with
    | none => shape.findAllFrom 0 rest
    | some (found, size) => found :: shape.findAllFrom (size - 1) rest

/-- Every span of the text, from left to right. -/
def findAll (shape : Shape α) (s : List Char) : List α := shape.findAllFrom 0 s

/-- Puts `fill` in place of every span, after passing over `skip` characters. -/
def replaceFrom (shape : Shape α) (fill : List Char) : Nat → List Char → List Char
  | _, [] => []
  | skip + 1, _ :: rest => shape.replaceFrom fill skip rest
  | 0, c :: rest =>
    match shape (c :: rest) with
    | none => c :: shape.replaceFrom fill 0 rest
    | some (_, size) => fill ++ shape.replaceFrom fill (size - 1) rest

def replaceAll (shape : Shape α) (fill : List Char) (s : List Char) : List Char :=
  shape.replaceFrom fill 0 s

end Shape

/-- The character is the given lowercase ASCII letter in some case. The long s is a form of s and
the Kelvin sign one of k. -/
def isLetter (letter c : Char) : Bool :=
  c.toLower == letter || (letter == 's' && c == '\u017F') || (letter == 'k' && c == '\u212A')

/-- What follows a name at the head of the text, the name being matched in any case. -/
def afterName? : List Char → List Char → Option (List Char)
  | [], s => some s
  | _ :: _, [] => none
  | letter :: name, c :: rest => if isLetter letter c then afterName? name rest else none

/-- What follows an angle bracket and the name as a whole word. -/
def afterTagName? (name : List Char) : List Char → Option (List Char)
  | '<' :: rest =>
    match afterName? name rest with
    | some rest => if Text.endsWord rest then some rest else none
    | none => none
  | _ => none

/-- The characters up to the first one that is `close`, and what follows it. -/
def upTo? (close : Char) : List Char → Option (List Char × List Char)
  | [] => none
  | c :: rest =>
    if c = close then some ([], rest)
    else (upTo? close rest).map fun (before, rest) => (c :: before, rest)

/-- The beginning of a tag of the given name, closed or not. -/
def tagStart (name : List Char) : Shape Unit := fun s =>
  (afterTagName? name s).map fun _ => ((), name.length + 1)

/-- A tag of the given name up to the first closing bracket, without the bracket. -/
def openingTag (name : List Char) : Shape (List Char) := fun s =>
  match afterTagName? name s with
  | none => none
  | some rest =>
    match upTo? '>' rest with
    | none => none
    | some (inside, _) =>
      let size := name.length + inside.length + 2
      some (s.take (size - 1), size)

/-- Anything between an opening bracket and the next closing one, if it is not empty. -/
def anyTag : Shape Unit
  | '<' :: rest =>
    match upTo? '>' rest with
    | none => none
    | some ([], _) => none
    | some (inside, _) => some ((), inside.length + 2)
  | _ => none

end Crawlability.Page
