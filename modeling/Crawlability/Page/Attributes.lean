import Crawlability.Page.Scan
import Crawlability.Text.Lowercase

/-!
The attributes of one tag. Only values in double quotes count: `name = "value"`, with blanks allowed
around the equals sign. Names are kept in lowercase, and of several values of one name the last.
-/
namespace Crawlability.Page

def isNameChar (c : Char) : Bool := c.isAlphanum || c == '_' || c == '-'

/-- A name, an equals sign and a quoted value at the head of the text. -/
def quotedPair : Shape (String × String) := fun s =>
  let name := s.takeWhile isNameChar
  if name.isEmpty then none
  else match (s.dropWhile isNameChar).dropWhile Text.isBlank with
    | '=' :: rest =>
      match rest.dropWhile Text.isBlank with
      | '"' :: rest =>
        match upTo? '"' rest with
        | none => none
        | some (value, rest) =>
          some ((.ofList (name.map Char.toLower), .ofList value), s.length - rest.length)
      | _ => none
    | _ => none

/-- Names and values of a tag, in the order in which they stand. -/
structure Attributes where
  pairs : List (String × String)
deriving Repr, DecidableEq

namespace Attributes

def ofTag (tag : List Char) : Attributes := ⟨quotedPair.findAll tag⟩

/-- The last value of the name. -/
def get? (a : Attributes) (name : String) : Option String :=
  (a.pairs.reverse.find? (·.1 == name)).map (·.2)

/-- The attribute is there and, blanks at its ends apart, equals the text in some case. -/
def is (a : Attributes) (name expected : String) : Bool :=
  (a.get? name).any fun value => Text.equalsIgnoringAsciiCase (Text.trim value) expected

end Attributes

/-- The attributes of each opening tag of the name. -/
def tagsNamed (name : String) (html : List Char) : List Attributes :=
  ((openingTag name.toList).findAll html).map Attributes.ofTag

end Crawlability.Page
