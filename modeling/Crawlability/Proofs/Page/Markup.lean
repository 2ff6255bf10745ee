import Crawlability.Proofs.Page.AttributeList
import Crawlability.Proofs.Page.TagSignals

/-!
Markup as pages write it: text without opening brackets, and tags with attributes. The signals of
such a page are what its tags say. A search for tags of a name finds the opening tags of that name
in order, whatever the case of their letters, and passes over texts, closing tags and tags of other
names, also of those that only begin like it.
-/
namespace Crawlability.Page

/-- The name of a tag: a letter, and letters and digits behind it. -/
structure TagName where
  first : Char
  rest : List Char
  isAlpha : first.isAlpha = true
  isAlphanum : ∀ c ∈ rest, c.isAlphanum = true

def TagName.text (name : TagName) : List Char := name.first :: name.rest

/-- A tag, opening or closing. Its values hold no brackets. -/
structure Tag where
  closing : Bool
  name : TagName
  attributes : List Attribute
  trailing : Gap
  plain : ∀ a ∈ attributes, ∀ assignment, a.assignment? = some assignment →
    '<' ∉ assignment.value ∧ '>' ∉ assignment.value

/-- A stretch of a page. -/
inductive Piece where
  | text (s : List Char) (plain : '<' ∉ s)
  | tag (t : Tag)

namespace Tag

/-- What stands between the brackets. -/
def inside (t : Tag) : List Char :=
  (if t.closing then ['/'] else []) ++
    (t.name.text ++ (printAttributes t.attributes ++ t.trailing.text))

def printed (t : Tag) : List Char := '<' :: (t.inside ++ ['>'])

/-- The tag opens an element of the name, in some case. -/
def opens (t : Tag) (name : String) : Bool :=
  !t.closing && Text.equalsIgnoringAsciiCase (.ofList t.name.text) name

/-- The attributes that have values, as they are kept. -/
def read (t : Tag) : Attributes := ⟨t.attributes.filterMap Attribute.pair?⟩

/-- The last value of the attribute. -/
def value? (t : Tag) (name : String) : Option String := lastValue? t.attributes name

end Tag

namespace Piece

def printed : Piece → List Char
  | text s _ => s
  | tag t => t.printed

/-- The tag of the piece, if it opens an element of the name. -/
def opening? (name : String) : Piece → Option Tag
  | text _ _ => none
  | tag t => if t.opens name then some t else none

end Piece

/-- The text of a page. -/
def printPieces (pieces : List Piece) : List Char := pieces.flatMap Piece.printed

/-- The tags that open elements of the name, in order. -/
def openings (name : String) (pieces : List Piece) : List Tag :=
  pieces.filterMap (Piece.opening? name)

theorem isNameChar_of_isAlphanum (c : Char) (h : c.isAlphanum = true) : isNameChar c = true := by
  simp [isNameChar, h]

theorem TagName.isAlphanum_of_mem (name : TagName) :
    ∀ c ∈ name.text, c.isAlphanum = true := by
  intro c hc
  rcases List.mem_cons.mp hc with rfl | hc
  · simp [Char.isAlphanum, name.isAlpha]
  · exact name.isAlphanum c hc

def IsBracket (c : Char) : Prop := c = '<' ∨ c = '>'

/-! Between the brackets of a tag there are none. -/

section Brackets

variable (bracket : Char) (h : IsBracket bracket)

include h

theorem Gap.bracket_not_mem (g : Gap) : bracket ∉ g.text := by
  intro hmem
  have hblank := g.isBlank bracket hmem
  rcases h with rfl | rfl
  · exact absurd hblank (by decide)
  · exact absurd hblank (by decide)

/-- Names of tags and of attributes. -/
theorem bracket_not_mem_of_isNameChar (name : List Char)
    (hname : ∀ c ∈ name, isNameChar c = true) : bracket ∉ name := by
  intro hmem
  have hchar := hname bracket hmem
  rcases h with rfl | rfl
  · exact absurd hchar (by decide)
  · exact absurd hchar (by decide)

theorem Assignment.bracket_not_mem (a : Assignment) (hvalue : bracket ∉ a.value) :
    bracket ∉ a.printed := by
  have hmarks : bracket ≠ '=' ∧ bracket ≠ '"' := by
    rcases h with rfl | rfl <;> decide
  have hbefore := a.beforeEquals.bracket_not_mem bracket h
  have hbehind := a.behindEquals.bracket_not_mem bracket h
  simp [printed, hbefore, hbehind, hvalue, hmarks]

theorem Attribute.bracket_not_mem (a : Attribute) (hvalue : ∀ assignment,
    a.assignment? = some assignment → bracket ∉ assignment.value) : bracket ∉ a.printed := by
  have hgap := a.gap.bracket_not_mem bracket h
  have hname := bracket_not_mem_of_isNameChar bracket h a.name.text a.name.isNameChar
  cases hassignment : a.assignment? with
  | none => simp [printed, hassignment, hgap, hname]
  | some assignment =>
    have hprinted := assignment.bracket_not_mem bracket h (hvalue assignment hassignment)
    simp [printed, hassignment, hgap, hname, hprinted]

theorem Tag.bracket_not_mem_inside (t : Tag) : bracket ∉ t.inside := by
  have hslash : bracket ∉ (if t.closing then ['/'] else []) := by
    rcases h with rfl | rfl <;> cases t.closing <;> decide
  have hname := bracket_not_mem_of_isNameChar bracket h t.name.text
    (fun c hc => isNameChar_of_isAlphanum c (t.name.isAlphanum_of_mem c hc))
  have hattributes : bracket ∉ printAttributes t.attributes := by
    intro hmem
    obtain ⟨a, ha, hmem⟩ := List.mem_flatMap.mp hmem
    refine a.bracket_not_mem bracket h ?_ hmem
    intro assignment hassignment
    have hplain := t.plain a ha assignment hassignment
    rcases h with rfl | rfl
    · exact hplain.1
    · exact hplain.2
  have htrailing := t.trailing.bracket_not_mem bracket h
  simp [inside, hslash, hname, hattributes, htrailing]

end Brackets

/-- Behind the name of a tag no word goes on. -/
theorem endsWord_printAttributes (attributes : List Attribute) (trailing : Gap) :
    Text.endsWord (printAttributes attributes ++ trailing.text) = true := by
  have hgap : ∀ (g : Gap) (rest : List Char), g.text ≠ [] →
      Text.endsWord (g.text ++ rest) = true := by
    intro g rest hne
    obtain ⟨c, text, hg⟩ := List.exists_cons_of_ne_nil hne
    have hblank := g.isBlank c (hg ▸ List.mem_cons_self ..)
    simp [hg, Text.endsWord, Text.isWordChar_eq_false_of_isBlank c hblank]
  cases attributes with
  | nil =>
    by_cases hnone : trailing.text = []
    · simp [printAttributes, hnone, Text.endsWord]
    · have hends := hgap trailing [] hnone
      rwa [List.append_nil] at hends
  | cons a attributes =>
    rw [printAttributes, List.flatMap_cons, Attribute.printed, List.append_assoc, List.append_assoc]
    exact hgap a.gap _ a.spaced

/-- Within ASCII a letter of a name has two forms only. -/
theorem isLetter_iff_of_isAlphanum (letter c : Char) (hc : c.isAlphanum = true) :
    isLetter letter c = true ↔ c.toLower = letter := by
  have hascii := Text.toNat_lt_of_isAlphanum c hc
  have hs : c ≠ '\u017F' := by
    rintro rfl
    exact absurd hascii (by decide)
  have hk : c ≠ '\u212A' := by
    rintro rfl
    exact absurd hascii (by decide)
  simp [isLetter, hs, hk]

theorem spells_iff_map_toLower (letters word : List Char)
    (hword : ∀ c ∈ word, c.isAlphanum = true) :
    Spells letters word ↔ word.map Char.toLower = letters := by
  unfold Spells
  induction letters generalizing word with
  | nil => rw [List.forall₂_nil_left_iff, List.map_eq_nil_iff]
  | cons letter letters ih =>
    cases word with
    | nil => simp
    | cons c word =>
      have hletter := isLetter_iff_of_isAlphanum letter c (hword c (List.mem_cons_self ..))
      have hrest := ih word (fun d hd => hword d (List.mem_cons_of_mem c hd))
      rw [List.forall₂_cons, hletter, hrest, List.map_cons, List.cons.injEq]

section Names

variable (name : String) (hname : IsName name.toList)

include hname

/-- A word of letters and digits of ASCII stands for the name exactly if it is the name up to the
case of letters. -/
theorem spells_iff_of_isAlphanum (word : List Char) (hword : ∀ c ∈ word, c.isAlphanum = true) :
    Spells name.toList word ↔ Text.equalsIgnoringAsciiCase (.ofList word) name = true := by
  have hlower : name.toList.map Char.toLower = name.toList := by
    conv_rhs => rw [← List.map_id name.toList]
    apply List.map_congr_left
    intro letter hletter
    exact Text.toLower_of_isLower letter (hname letter hletter)
  rw [spells_iff_map_toLower _ _ hword, Text.equalsIgnoringAsciiCase, String.toList_ofList, hlower,
    beq_iff_eq]

variable (hne : name.toList ≠ [])

include hne

/-- The tag is one of the name exactly if it opens it. -/
theorem Tag.isTag_iff (t : Tag) : IsTag name.toList ('<' :: t.inside) ↔ t.opens name = true := by
  have hclose : '>' ∉ t.inside := t.bracket_not_mem_inside '>' (.inr rfl)
  have hword : IsTag name.toList ('<' :: t.inside) ↔
      Spells name.toList (t.inside.takeWhile Text.isWordChar) := by
    constructor
    · rintro ⟨s, hs, hspells, -⟩
      rw [(List.cons.inj hs).2]
      exact hspells
    · intro hspells
      exact ⟨t.inside, rfl, hspells, hclose⟩
  rw [hword, inside, opens]
  cases t.closing with
  | true =>
    apply iff_of_false
    · intro hspells
      have hslash : Text.isWordChar '/' = false := by decide
      rw [if_pos rfl, List.cons_append, List.takeWhile_cons_of_neg (by simp [hslash])] at hspells
      exact hne (List.forall₂_nil_right_iff.mp hspells)
    · simp
  | false =>
    have htake := takeWhile_isWordChar_append t.name.text _
      (fun c hc => Text.isWordChar_of_isAlphanum c (t.name.isAlphanum_of_mem c hc))
      (endsWord_printAttributes t.attributes t.trailing)
    rw [if_neg (by decide), List.nil_append, htake,
      spells_iff_of_isAlphanum name hname _ t.name.isAlphanum_of_mem]
    simp

omit hne in
/-- No tag begins in a text without opening brackets. -/
theorem findAll_openingTag_text (s rest : List Char) (hs : '<' ∉ s) :
    (openingTag name.toList).findAll (s ++ rest) = (openingTag name.toList).findAll rest := by
  apply Shape.findAll_append_of_none
  apply Shape.eq_none_of_suffix
  intro c hc after
  apply openingTag_eq_none name.toList hname
  rintro tag behind heq ⟨t, rfl, -⟩
  rw [(List.cons.inj heq).1] at hc
  exact hs hc

/-- An opening tag of the name is found, and any other tag is passed over. -/
theorem Tag.findAll_openingTag_append (t : Tag) (rest : List Char) :
    (openingTag name.toList).findAll (t.printed ++ rest) =
      (if t.opens name then ['<' :: t.inside] else []) ++ (openingTag name.toList).findAll rest := by
  have htext : t.printed ++ rest = '<' :: t.inside ++ '>' :: rest := by simp [printed]
  rw [htext]
  by_cases hopens : t.opens name = true
  · rw [if_pos hopens]
    exact Page.findAll_openingTag_append name.toList hname _ rest
      ((t.isTag_iff name hname hne).mpr hopens)
  · have hnone : openingTag name.toList ('<' :: (t.inside ++ '>' :: rest)) = none := by
      apply openingTag_eq_none name.toList hname
      rintro tag after heq ⟨s, rfl, hspells, hclose⟩
      -- The tag would end at the same bracket, and so be the same tag.
      obtain ⟨hsame, -⟩ := append_cons_inj '>' t.inside s rest after
        (t.bracket_not_mem_inside '>' (.inr rfl)) hclose (List.cons.inj heq).2
      exact hopens ((t.isTag_iff name hname hne).mp ⟨s, by rw [hsame], hspells, hclose⟩)
    have hbracket : '<' ∉ t.inside ++ ['>'] := by
      have hinside := t.bracket_not_mem_inside '<' (.inl rfl)
      simp [hinside]
    have hbehind : t.inside ++ '>' :: rest = (t.inside ++ ['>']) ++ rest := by simp
    rw [if_neg hopens, List.nil_append, List.cons_append,
      (openingTag name.toList).findAll_cons_of_none '<' _ hnone, hbehind,
      findAll_openingTag_text name hname _ rest hbracket]

theorem findAll_openingTag_printPieces (pieces : List Piece) :
    (openingTag name.toList).findAll (printPieces pieces) =
      (openings name pieces).map fun t => '<' :: t.inside := by
  induction pieces with
  | nil => rfl
  | cons piece pieces ih =>
    have hprint : printPieces (piece :: pieces) = piece.printed ++ printPieces pieces :=
      List.flatMap_cons
    rw [hprint]
    cases piece with
    | text s plain =>
      rw [Piece.printed, findAll_openingTag_text name hname s _ plain, ih]
      rfl
    | tag t =>
      rw [Piece.printed, t.findAll_openingTag_append name hname hne, ih]
      by_cases hopens : t.opens name = true
      · simp [openings, Piece.opening?, hopens]
      · simp [openings, Piece.opening?, hopens]

end Names

/-- The attributes of an opening tag are read as it has them; its name is none of them. -/
theorem Tag.ofTag_inside (t : Tag) (hopening : t.closing = false) :
    Attributes.ofTag ('<' :: t.inside) = t.read := by
  have hname : ∀ c ∈ t.name.text, isNameChar c = true :=
    fun c hc => isNameChar_of_isAlphanum c (t.name.isAlphanum_of_mem c hc)
  have hbracket : quotedPair ('<' :: t.inside) = none :=
    quotedPair_cons_of_not_nameChar '<' _ (by decide)
  have hinside : t.inside =
      t.name.text ++ (printAttributes t.attributes ++ t.trailing.text) := by
    simp [inside, hopening]
  rw [Attributes.ofTag, quotedPair.findAll_cons_of_none '<' _ hbracket, hinside,
    findAll_quotedPair_bare _ _ hname (endsName_printAttributes t.attributes t.trailing),
    findAll_quotedPair_printAttributes, read]

theorem mem_openings_iff (name : String) (pieces : List Piece) (t : Tag) :
    t ∈ openings name pieces ↔ .tag t ∈ pieces ∧ t.opens name = true := by
  rw [openings, List.mem_filterMap]
  constructor
  · rintro ⟨piece, hmem, hpiece⟩
    cases piece with
    | text s plain => cases hpiece
    | tag t' =>
      simp only [Piece.opening?, Option.ite_none_right_eq_some, Option.some.injEq] at hpiece
      obtain ⟨hopens, rfl⟩ := hpiece
      exact ⟨hmem, hopens⟩
  · rintro ⟨hmem, hopens⟩
    exact ⟨.tag t, hmem, by simp [Piece.opening?, hopens]⟩

theorem tagsNamed_printPieces (name : String) (hname : IsName name.toList)
    (hne : name.toList ≠ []) (pieces : List Piece) :
    tagsNamed name (printPieces pieces) = (openings name pieces).map Tag.read := by
  rw [tagsNamed, findAll_openingTag_printPieces name hname hne, List.map_map]
  apply List.map_congr_left
  intro t ht
  obtain ⟨-, hopens⟩ := (mem_openings_iff name pieces t).mp ht
  rw [Tag.opens, Bool.and_eq_true, Bool.not_eq_true'] at hopens
  exact t.ofTag_inside hopens.1

namespace Tag

/-- The attribute is there and, blanks at its ends apart, is the text in some case. -/
def has (t : Tag) (name expected : String) : Bool :=
  (t.value? name).any fun value => Text.equalsIgnoringAsciiCase (Text.trim value) expected

/-- The tag gives the address as the canonical one. -/
def Declares (t : Tag) (address : String) : Prop :=
  t.has "rel" "canonical" = true ∧
    ∃ href, t.value? "href" = some href ∧ Text.trim href = address ∧ address ≠ ""

/-- The tag addresses crawlers and lists the directive. -/
def Directs (t : Tag) (directive : String) : Prop :=
  ∃ name content, t.value? "name" = some name ∧
    Text.lowercase (Text.trim name) ∈ watchedNames ∧
    t.value? "content" = some content ∧ directive ∈ (Directives.parse content).toList

variable (t : Tag)

theorem get?_read (name : String) : t.read.get? name = t.value? name :=
  Attributes.get?_eq_lastValue? t.attributes name

theorem is_read (name expected : String) : t.read.is name expected = t.has name expected := by
  rw [Attributes.is, get?_read, has]

theorem mem_toList_directives_read_iff (directive : String) :
    directive ∈ t.read.directives.toList ↔ t.Directs directive := by
  rw [Attributes.mem_toList_directives_iff]
  simp only [get?_read, Directs]
  constructor
  · rintro ⟨name, hname, hwatched, content, hcontent, hmem⟩
    exact ⟨name, content, hname, hwatched, hcontent, hmem⟩
  · rintro ⟨name, content, hname, hwatched, hcontent, hmem⟩
    exact ⟨name, hname, hwatched, content, hcontent, hmem⟩

theorem canonical?_read_eq_some_iff (address : String) :
    t.read.canonical? = some address ↔ t.Declares address := by
  rw [Attributes.canonical?, is_read, get?_read, Declares]
  by_cases hrel : t.has "rel" "canonical" = true
  · cases t.value? "href" with
    | none => simp [hrel]
    | some href => simp [hrel, Option.filter_eq_some_iff]
  · simp [hrel]

theorem canonical?_read_eq_none_iff :
    t.read.canonical? = none ↔ ∀ address, ¬ t.Declares address := by
  simp only [← canonical?_read_eq_some_iff, Option.eq_none_iff_forall_ne_some, ne_eq]

end Tag

/-- A page says what its tags say: its directives are those of its meta tags, its canonical address
is the one of the first link tag that declares one, and its blocks of structured data are the script
tags of that type. Texts, closing tags and all other tags say nothing. -/
theorem ofHtml_printPieces (pieces : List Piece) :
    let signals := Signals.ofHtml (.ofList (printPieces pieces))
    (∀ directive, directive ∈ signals.directives.toList ↔
      ∃ t ∈ openings "meta" pieces, t.Directs directive) ∧
    (∀ address, signals.canonical? = some address ↔
      ∃ before t after, openings "link" pieces = before ++ t :: after ∧ t.Declares address ∧
        ∀ other ∈ before, ∀ address', ¬ other.Declares address') ∧
    signals.jsonLdCount =
      ((openings "script" pieces).filter fun t => t.has "type" "application/ld+json").length := by
  have hmeta := tagsNamed_printPieces "meta" isName_meta (by simp) pieces
  have hlink := tagsNamed_printPieces "link" isName_link (by simp) pieces
  have hscript := tagsNamed_printPieces "script" isName_script (by simp) pieces
  intro signals
  refine ⟨?_, ?_, ?_⟩
  · intro directive
    change directive ∈ (Signals.directivesOf (String.ofList (printPieces pieces)).toList).toList ↔ _
    rw [String.toList_ofList, Signals.mem_toList_directivesOf_iff, hmeta]
    simp only [List.mem_map, exists_exists_and_eq_and, Tag.mem_toList_directives_read_iff]
  · intro address
    change Signals.canonicalOf? (String.ofList (printPieces pieces)).toList = some address ↔ _
    rw [String.toList_ofList, Signals.canonicalOf?, hlink, List.findSome?_map,
      List.findSome?_eq_some_iff]
    simp only [Function.comp_apply, Tag.canonical?_read_eq_some_iff,
      Tag.canonical?_read_eq_none_iff]
  · change Signals.jsonLdCountOf (String.ofList (printPieces pieces)).toList = _
    rw [String.toList_ofList, Signals.jsonLdCountOf, hscript, List.countP_map,
      List.countP_eq_length_filter]
    simp only [Function.comp_def, Tag.is_read]

end Crawlability.Page
