/-!
Blank characters and what is cut at them. A character is blank when it has the White_Space property
of the Unicode character database; trimming removes blanks at both ends of a text and nothing else.
-/
namespace Crawlability.Text

/-- The White_Space property. -/
def isBlank (c : Char) : Bool :=
  let n := c.toNat
  (0x9 ≤ n && n ≤ 0xD) || n == 0x20 || n == 0x85 || n == 0xA0 || n == 0x1680 ||
    (0x2000 ≤ n && n ≤ 0x200A) || n == 0x2028 || n == 0x2029 || n == 0x202F || n == 0x205F ||
    n == 0x3000

def trimStart (s : List Char) : List Char := s.dropWhile isBlank

def trimEnd (s : List Char) : List Char := (s.reverse.dropWhile isBlank).reverse

def trimChars (s : List Char) : List Char := trimEnd (trimStart s)

/-- The text without the blanks at its two ends. -/
def trim (s : String) : String := .ofList (trimChars s.toList)

/-- Nothing is left of the text once it is trimmed. -/
def isAllBlank (s : String) : Bool := s.toList.all isBlank

/-- The maximal runs of characters that are no separators, in order. -/
def fields (isSeparator : Char → Bool) (s : List Char) : List (List Char) :=
  (s.splitOnP isSeparator).filter (!·.isEmpty)

end Crawlability.Text
