import Crawlability.Page.Attributes
import Crawlability.Page.Content
import Crawlability.Page.Directives

/-!
What a page tells crawlers: the directives of its meta tags, its canonical address, its blocks of
structured data and its shape. Reading never fails; a signal that is missing is an answer too.
-/
namespace Crawlability.Page

structure Signals where
  directives : Directives
  canonical? : Option String
  jsonLdCount : Nat
  content : Content
deriving Repr, DecidableEq

/-- Names of the meta tags that address crawlers. -/
def watchedNames : List String := ["robots", "googlebot", "bingbot", "perplexitybot", "claudebot"]

namespace Attributes

/-- The directives of a meta tag, none unless its name is watched. -/
def directives (a : Attributes) : Directives :=
  match a.get? "name" with
  | none => {}
  | some name =>
    if watchedNames.contains (Text.lowercase (Text.trim name)) then
      match a.get? "content" with
      | none => {}
      | some content => .parse content
    else {}

/-- The address that a link tag declares canonical. -/
def canonical? (a : Attributes) : Option String :=
  if a.is "rel" "canonical" then
    ((a.get? "href").map Text.trim).filter (!·.isEmpty)
  else none

end Attributes

namespace Signals

def directivesOf (html : List Char) : Directives :=
  (tagsNamed "meta" html).foldl (fun found tag => found.union tag.directives) {}

/-- The first canonical link that has an address. -/
def canonicalOf? (html : List Char) : Option String :=
  (tagsNamed "link" html).findSome? Attributes.canonical?

def jsonLdCountOf (html : List Char) : Nat :=
  (tagsNamed "script" html).countP (·.is "type" "application/ld+json")

def ofHtml (html : String) : Signals where
  directives := directivesOf html.toList
  canonical? := canonicalOf? html.toList
  jsonLdCount := jsonLdCountOf html.toList
  content := .ofHtml html.toList

end Signals

end Crawlability.Page
