import Crawlability.Page.Signals
import Crawlability.Proofs.Page.CharacterMaps
import Crawlability.Proofs.Page.TagSignals
import Crawlability.Proofs.Text.LetterCase

/-!
Pages up to the case of ASCII letters. A page in ASCII lowercase has the tags of the page, each with
the same attribute names and with its values in ASCII lowercase. Directives, types and the shape of
the page are read in a way that forgets this case; only the canonical address is given as it stands.
-/
namespace Crawlability.Page

theorem keepsMarkup_toLower : KeepsMarkup Char.toLower where
  isLetter letter c _ := by
    rw [isLetter, isLetter, Char.toLower_toLower_eq_toLower, Text.toLower_beq '\u017F' (by decide),
      Text.toLower_beq '\u212A' (by decide)]
  isWordChar := Text.isWordChar_toLower
  opens c := by rw [← beq_iff_eq, Text.toLower_beq '<' (by decide), beq_iff_eq]
  closes c := by rw [← beq_iff_eq, Text.toLower_beq '>' (by decide), beq_iff_eq]

theorem isNameChar_toLower (c : Char) : isNameChar c.toLower = isNameChar c :=
  Text.apply_toLower isNameChar (by decide) c

/-- What follows the mark that stands at the head of a text, blanks in front of it apart. -/
def afterMark? (mark : Char) (s : List Char) : Option (List Char) :=
  match s.dropWhile Text.isBlank with
  | [] => none
  | c :: rest => if c = mark then some rest else none

/-- A pair is a name, two marks and what stands before the next quote. -/
theorem quotedPair_eq (s : List Char) : quotedPair s =
    if (s.takeWhile isNameChar).isEmpty then none
    else ((afterMark? '=' (s.dropWhile isNameChar)).bind (afterMark? '"')).bind fun rest =>
      (upTo? '"' rest).map fun found =>
        ((.ofList ((s.takeWhile isNameChar).map Char.toLower), .ofList found.1),
          s.length - found.2.length) := by
  unfold quotedPair afterMark?
  dsimp only
  split
  · rfl
  · split
    · rename_i rest hequals
      rw [hequals]
      simp only [↓reduceIte, Option.bind_some]
      split
      · rename_i rest hquote
        rw [hquote]
        simp only [↓reduceIte, Option.bind_some]
        cases upTo? '"' rest <;> rfl
      · rename_i hquote
        split
        · rfl
        · rename_i c rest hc
          rw [if_neg (fun heq => hquote rest (by rw [hc, heq]))]
          rfl
    · rename_i hequals
      split
      · rfl
      · rename_i c rest hc
        rw [if_neg (fun heq => hequals rest (by rw [hc, heq]))]
        rfl

theorem afterMark?_map_toLower (mark : Char)
    (hmark : ∀ c : Char, (c.toLower == mark) = (c == mark)) (s : List Char) :
    afterMark? mark (s.map Char.toLower) = (afterMark? mark s).map (List.map Char.toLower) := by
  have hblank : Text.isBlank ∘ Char.toLower = Text.isBlank := funext Text.isBlank_toLower
  have hiff : ∀ c : Char, c.toLower = mark ↔ c = mark := by
    intro c
    rw [← beq_iff_eq, hmark, beq_iff_eq]
  rw [afterMark?, afterMark?, List.dropWhile_map, hblank]
  cases s.dropWhile Text.isBlank with
  | nil => rfl
  | cons c rest =>
    simp only [List.map_cons, hiff]
    split <;> rfl

/-- The attribute with its value in ASCII lowercase; its name is so already. -/
def lowerValue (pair : String × String) : String × String := (pair.1, Text.asciiLowercase pair.2)

theorem quotedPair_map_toLower (s : List Char) :
    quotedPair (s.map Char.toLower) = (quotedPair s).map (Prod.map lowerValue id) := by
  have hname : isNameChar ∘ Char.toLower = isNameChar := funext isNameChar_toLower
  have hquote : ∀ c : Char, c.toLower = '"' ↔ c = '"' := by
    intro c
    rw [← beq_iff_eq, Text.toLower_beq '"' (by decide), beq_iff_eq]
  rw [quotedPair_eq, quotedPair_eq]
  simp only [List.takeWhile_map, List.dropWhile_map, hname, List.isEmpty_map, List.length_map,
    Text.map_toLower_map_toLower, afterMark?_map_toLower '=' (Text.toLower_beq '=' (by decide))]
  split
  · rfl
  · cases afterMark? '=' (s.dropWhile isNameChar) with
    | none => rfl
    | some rest =>
      simp only [Option.map_some, Option.bind_some,
        afterMark?_map_toLower '"' (Text.toLower_beq '"' (by decide))]
      cases afterMark? '"' rest with
      | none => rfl
      | some rest =>
        simp only [Option.map_some, Option.bind_some, upTo?_map Char.toLower '"' hquote]
        cases upTo? '"' rest with
        | none => rfl
        | some found =>
          simp [lowerValue, Text.asciiLowercase]

namespace Attributes

/-- The attributes with all values in ASCII lowercase. -/
def lowered (a : Attributes) : Attributes := ⟨a.pairs.map lowerValue⟩

theorem ofTag_map_toLower (tag : List Char) :
    ofTag (tag.map Char.toLower) = (ofTag tag).lowered :=
  congrArg mk (quotedPair.findAll_map Char.toLower lowerValue quotedPair_map_toLower tag)

variable (a : Attributes)

theorem get?_lowered (name : String) :
    a.lowered.get? name = (a.get? name).map Text.asciiLowercase := by
  have hname : ((· == name) ∘ Prod.fst) ∘ lowerValue = (· == name) ∘ Prod.fst := rfl
  have hpredicate : (fun pair : String × String => pair.1 == name) = (· == name) ∘ Prod.fst := rfl
  rw [get?, get?, lowered, ← List.map_reverse, List.find?_map, hpredicate, hname]
  cases a.pairs.reverse.find? ((· == name) ∘ Prod.fst) <;> rfl

theorem is_lowered (name expected : String) :
    a.lowered.is name expected = a.is name expected := by
  rw [is, is, get?_lowered]
  cases a.get? name with
  | none => rfl
  | some value =>
    simp only [Option.map_some, Option.any_some, Text.trim_asciiLowercase,
      Text.equalsIgnoringAsciiCase_asciiLowercase]

end Attributes

theorem Directives.isSeparator_toLower (c : Char) : isSeparator c.toLower = isSeparator c :=
  Text.apply_toLower isSeparator (by decide) c

/-- Directives are read in lowercase. -/
theorem Directives.parse_asciiLowercase (value : String) :
    parse (Text.asciiLowercase value) = parse value := by
  rw [parse, parse, Text.toList_asciiLowercase,
    Text.fields_map Char.toLower isSeparator isSeparator_toLower, List.map_map]
  congr 1
  apply List.map_congr_left
  intro field _
  rw [Function.comp_apply, Text.lowercaseChars_map_toLower]

namespace Attributes

variable (a : Attributes)

theorem directives_lowered : a.lowered.directives = a.directives := by
  unfold directives
  rw [get?_lowered, get?_lowered]
  cases a.get? "name" with
  | none => rfl
  | some name =>
    simp only [Option.map_some, Text.trim_asciiLowercase, Text.lowercase_asciiLowercase]
    cases a.get? "content" with
    | none => rfl
    | some content => simp only [Option.map_some, Directives.parse_asciiLowercase]

theorem canonical?_lowered : a.lowered.canonical? = a.canonical?.map Text.asciiLowercase := by
  rw [canonical?, canonical?, is_lowered, get?_lowered]
  split
  · cases a.get? "href" with
    | none => rfl
    | some address =>
      simp only [Option.map_some, Text.trim_asciiLowercase, Option.filter_some,
        Text.isEmpty_asciiLowercase]
      split <;> rfl
  · rfl

end Attributes

/-- A page in ASCII lowercase has the tags of the page, their values lowered. -/
theorem tagsNamed_map_toLower (name : String) (hname : IsName name.toList) (html : List Char) :
    tagsNamed name (html.map Char.toLower) = (tagsNamed name html).map Attributes.lowered := by
  rw [tagsNamed, tagsNamed, keepsMarkup_toLower.findAll_openingTag_map _ hname, List.map_map,
    List.map_map]
  exact List.map_congr_left fun tag _ => Attributes.ofTag_map_toLower tag

namespace Signals

theorem directivesOf_map_toLower (html : List Char) :
    directivesOf (html.map Char.toLower) = directivesOf html := by
  rw [directivesOf, directivesOf, tagsNamed_map_toLower "meta" isName_meta, List.foldl_map]
  simp only [Attributes.directives_lowered]

theorem canonicalOf?_map_toLower (html : List Char) :
    canonicalOf? (html.map Char.toLower) = (canonicalOf? html).map Text.asciiLowercase := by
  rw [canonicalOf?, canonicalOf?, tagsNamed_map_toLower "link" isName_link, List.findSome?_map,
    List.map_findSome?]
  congr 1
  funext tag
  exact tag.canonical?_lowered

theorem jsonLdCountOf_map_toLower (html : List Char) :
    jsonLdCountOf (html.map Char.toLower) = jsonLdCountOf html := by
  rw [jsonLdCountOf, jsonLdCountOf, tagsNamed_map_toLower "script" isName_script, List.countP_map]
  congr 1
  funext tag
  exact tag.is_lowered "type" "application/ld+json"

/-- In ASCII lowercase a page says what it said before, its address in ASCII lowercase. -/
theorem ofHtml_asciiLowercase (html : String) : ofHtml (Text.asciiLowercase html) =
    { ofHtml html with canonical? := (ofHtml html).canonical?.map Text.asciiLowercase } := by
  rw [ofHtml, ofHtml, Text.toList_asciiLowercase, directivesOf_map_toLower,
    canonicalOf?_map_toLower, jsonLdCountOf_map_toLower, Content.ofHtml,
    Text.lowercaseChars_map_toLower]
  rfl

end Signals

end Crawlability.Page
