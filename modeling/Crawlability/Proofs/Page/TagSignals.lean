import Crawlability.Page.Signals
import Crawlability.Proofs.Page.DirectiveLists
import Crawlability.Proofs.Page.QuotedPairs

/-!
Signals of a page in terms of its text. A directive is found on a page exactly if a meta tag that
addresses crawlers lists it, where tags, their quoted pairs and the fields of a list are all told by
relations on the characters that stand there.
-/
namespace Crawlability.Page

theorem isName_meta : IsName "meta".toList := by simp [IsName, Char.isLower]

theorem isName_link : IsName "link".toList := by simp [IsName, Char.isLower]

theorem isName_script : IsName "script".toList := by simp [IsName, Char.isLower]

theorem mem_tagsNamed_iff (name : String) (hname : IsName name.toList) (html : List Char)
    (attributes : Attributes) : attributes ∈ tagsNamed name html ↔
      ∃ tag, HasTag name.toList html tag ∧ Attributes.ofTag tag = attributes := by
  simp only [tagsNamed, List.mem_map, mem_findAll_openingTag_iff _ hname]

theorem mem_watchedNames_iff (name : String) : Text.lowercase name ∈ watchedNames ↔
    ∃ watched ∈ watchedNames, Text.equalsIgnoringAsciiCase name watched = true := by
  have hplain : ∀ watched ∈ watchedNames, (∀ c ∈ watched.toList, Text.IsPlain c) ∧
      watched.toList.map Char.toLower = watched.toList := by
    simp [watchedNames, Text.IsPlain, Char.toLower]
  constructor
  · intro h
    obtain ⟨hchars, hlower⟩ := hplain _ h
    exact ⟨_, h, (Text.lowercase_eq_iff name _ hchars hlower).mp rfl⟩
  · rintro ⟨watched, hmem, hequal⟩
    obtain ⟨hchars, hlower⟩ := hplain watched hmem
    rwa [(Text.lowercase_eq_iff name watched hchars hlower).mpr hequal]

/-- A tag gives directives if its name is watched and it has a content. -/
theorem Attributes.mem_toList_directives_iff (a : Attributes) (token : String) :
    token ∈ a.directives.toList ↔ ∃ name, a.get? "name" = some name ∧
      Text.lowercase (Text.trim name) ∈ watchedNames ∧
      ∃ content, a.get? "content" = some content ∧ token ∈ (Directives.parse content).toList := by
  unfold Attributes.directives
  cases a.get? "name" with
  | none => simp
  | some name =>
    by_cases hwatched : Text.lowercase (Text.trim name) ∈ watchedNames
    · cases a.get? "content" with
      | none => simp
      | some content => simp [hwatched]
    · simp [hwatched]

namespace Signals

theorem mem_toList_directivesOf_iff (html : List Char) (token : String) :
    token ∈ (directivesOf html).toList ↔
      ∃ tag ∈ tagsNamed "meta" html, token ∈ tag.directives.toList := by
  rw [directivesOf, Directives.mem_toList_foldl_union Attributes.directives]
  simp

end Signals

/-- A meta tag of the page lists the directive as its content, and its name is one of the five that
crawlers go by, up to blanks at its ends and the case of ASCII letters. Of several names or contents
in the tag the last one counts. -/
def HasMetaDirective (html : List Char) (directive : String) : Prop :=
  ∃ tag pairs name content, HasTag "meta".toList html tag ∧ HasPairs tag pairs ∧
    LastValue pairs "name" name ∧
    (∃ watched ∈ ["robots", "googlebot", "bingbot", "perplexitybot", "claudebot"],
      Text.equalsIgnoringAsciiCase (Text.trim name) watched = true) ∧
    LastValue pairs "content" content ∧ Lists content directive

/-- The directives of a tag in terms of the pairs that its text has. -/
theorem Attributes.mem_toList_directives_ofTag_iff (tag : List Char)
    (pairs : List (String × String)) (hpairs : HasPairs tag pairs) (token : String) :
    token ∈ (Attributes.ofTag tag).directives.toList ↔ ∃ name content,
      LastValue pairs "name" name ∧
      (∃ watched ∈ ["robots", "googlebot", "bingbot", "perplexitybot", "claudebot"],
        Text.equalsIgnoringAsciiCase (Text.trim name) watched = true) ∧
      LastValue pairs "content" content ∧ token ∈ (Directives.parse content).toList := by
  rw [mem_toList_directives_iff]
  simp only [get?_ofTag_eq_some_iff _ tag pairs hpairs, mem_watchedNames_iff]
  constructor
  · rintro ⟨name, hname, hwatched, content, hcontent, htoken⟩
    exact ⟨name, content, hname, hwatched, hcontent, htoken⟩
  · rintro ⟨name, content, hname, hwatched, hcontent, htoken⟩
    exact ⟨name, hname, hwatched, content, hcontent, htoken⟩

theorem Signals.contains_directivesOf_iff (html : List Char) (directive : String)
    (hplain : ∀ c ∈ directive.toList, Text.IsPlain c)
    (hlower : directive.toList.map Char.toLower = directive.toList) :
    (Signals.directivesOf html).contains directive = true ↔ HasMetaDirective html directive := by
  have hlists : ∀ content, directive ∈ (Directives.parse content).toList ↔
      Lists content directive := by
    intro content
    rw [← Directives.contains_iff, Directives.contains_parse_iff content directive hplain hlower]
  rw [Directives.contains_iff, mem_toList_directivesOf_iff]
  simp only [mem_tagsNamed_iff "meta" isName_meta]
  constructor
  · rintro ⟨_, ⟨tag, htag, rfl⟩, hmem⟩
    have hpairs := hasPairs_findAll tag
    obtain ⟨name, content, hname, hwatched, hcontent, hlisted⟩ :=
      (Attributes.mem_toList_directives_ofTag_iff tag _ hpairs directive).mp hmem
    exact ⟨tag, _, name, content, htag, hpairs, hname, hwatched, hcontent,
      (hlists content).mp hlisted⟩
  · rintro ⟨tag, pairs, name, content, htag, hpairs, hname, hwatched, hcontent, hlisted⟩
    refine ⟨_, ⟨tag, htag, rfl⟩, ?_⟩
    rw [Attributes.mem_toList_directives_ofTag_iff tag pairs hpairs]
    exact ⟨name, content, hname, hwatched, hcontent, (hlists content).mpr hlisted⟩

end Crawlability.Page
