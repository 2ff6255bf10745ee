import Crawlability.Text.Word.Table

/-!
Word characters, and the boundary between a word and what follows it.
-/
namespace Crawlability.Text

/-- A character that words are made of: a letter, mark, decimal digit, connector or join control. -/
def isWordChar (c : Char) : Bool :=
  if c.toNat < 0x80 then c.isAlphanum || c == '_' else Range.anyContains Word.ranges c

/-- A word that stands before this text ends there. -/
def endsWord : List Char → Bool
  | [] => true
  | c :: _ => !isWordChar c

end Crawlability.Text
