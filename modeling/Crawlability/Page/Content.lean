import Crawlability.Page.Scan
import Crawlability.Text.Lowercase

/-!
The shape of a page: which landmark elements it opens, how many scripts, and how much text is left
once every tag is taken out. All of it is read from the page in lowercase.
-/
namespace Crawlability.Page

/-- The text occurs somewhere in the other one. -/
def occursIn (needle : List Char) : List Char → Bool
  | [] => needle.isEmpty
  | c :: rest => needle.isPrefixOf (c :: rest) || occursIn needle rest

structure Content where
  hasMain : Bool
  hasArticle : Bool
  hasH1 : Bool
  scriptCount : Nat
  visibleLength : Nat
deriving Repr, DecidableEq

namespace Content

/-- Landmarks are found by how their tags begin, so `<mainframe>` is a `main` element. -/
def ofHtml (html : List Char) : Content :=
  let page := Text.lowercaseChars html
  { hasMain := occursIn "<main".toList page
    hasArticle := occursIn "<article".toList page
    hasH1 := occursIn "<h1".toList page
    scriptCount := ((tagStart "script".toList).findAll page).length
    visibleLength := (Text.trimChars (anyTag.replaceAll [' '] page)).length }

/-- Pages with more scripts than this may be drawn by the browser alone. -/
def manyScripts : Nat := 30

/-- Pages with less visible text than this are thin. -/
def thinText : Nat := 800

def isScriptHeavy (c : Content) : Bool := manyScripts < c.scriptCount && c.visibleLength < thinText

end Content

end Crawlability.Page
