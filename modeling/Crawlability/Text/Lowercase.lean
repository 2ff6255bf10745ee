import Crawlability.Text.Lowercase.Table

/-!
Full lowercasing. Every character is lowered by itself, with two exceptions that Unicode makes:
the dotted capital I becomes an i followed by a combining dot, and a capital sigma takes its final
form at the end of a word. A sigma ends a word when, case-ignorable characters apart, a cased
character stands before it and none after it.
-/
namespace Crawlability.Text

open Crawlability.Text.Lowercase

/-- The lowercase form of a code point, itself when it has none. -/
def lowerCode (n : Nat) : Nat := (Run.image? runs n).getD n

/-- What one character becomes wherever it stands. -/
def lowerChar (c : Char) : List Char :=
  if c.toNat < 0x80 then [c.toLower]
  else if c = '\u0130' then ['i', '\u0307']
  else [Char.ofNat (lowerCode c.toNat)]

def isCased (c : Char) : Bool :=
  if c.toNat < 0x80 then c.isAlpha else Range.anyContains cased c

def isCaseIgnorable (c : Char) : Bool := Range.anyContains caseIgnorable c

/-- The first character that is not case-ignorable is cased. -/
def startsCased (s : List Char) : Bool :=
  match s.dropWhile isCaseIgnorable with
  | [] => false
  | c :: _ => isCased c

/-- Lowers the rest of a text; `inWord` tells that, case-ignorable characters apart, the text before
ends in a cased character. -/
def lowercaseFrom (inWord : Bool) : List Char → List Char
  | [] => []
  | c :: rest =>
    let lowered :=
      if c = '\u03A3' then [if inWord && !startsCased rest then '\u03C2' else '\u03C3']
      else lowerChar c
    let inWord := if isCaseIgnorable c then inWord else isCased c
    lowered ++ lowercaseFrom inWord rest

def lowercaseChars (s : List Char) : List Char := lowercaseFrom false s

/-- The text in lowercase. -/
def lowercase (s : String) : String := .ofList (lowercaseChars s.toList)

/-- The text with its ASCII letters in lowercase and all else as it stands. -/
def asciiLowercase (s : String) : String := .ofList (s.toList.map Char.toLower)

/-- The two texts differ at most in the case of ASCII letters. -/
def equalsIgnoringAsciiCase (s t : String) : Bool :=
  s.toList.map Char.toLower == t.toList.map Char.toLower

end Crawlability.Text
