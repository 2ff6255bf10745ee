import Crawlability.Page.Signals
import Crawlability.Proofs.Page.CharacterMaps
import Crawlability.Proofs.Page.DirectiveSets
import Crawlability.Proofs.Page.TagSignals
import Crawlability.Proofs.Text.Sigma

/-!
Pages put together from fragments. In a closed fragment a closing bracket stands behind every opening
one, so no tag and no beginning of a tag reaches out of it, and what a search finds in the whole page
is what it finds in the fragment and then in the rest. Lowercasing does reach across the seam, but
only to choose between the two forms of the small sigma, which no search tells apart.
-/
namespace Crawlability.Page

/-- Behind every opening bracket of the text there is a closing one. -/
def IsClosed (s : List Char) : Prop := ∀ rest, '<' :: rest <:+ s → '>' ∈ rest

theorem isClosed_nil : IsClosed [] := by
  intro rest h
  cases List.suffix_nil.mp h

theorem isClosed_cons (c : Char) (s : List Char) :
    IsClosed (c :: s) ↔ (c = '<' → '>' ∈ s) ∧ IsClosed s := by
  constructor
  · intro h
    constructor
    · rintro rfl
      exact h s (List.suffix_refl _)
    · intro rest hrest
      exact h rest (hrest.trans (List.suffix_cons c s))
  · rintro ⟨hhead, htail⟩ rest hrest
    rcases List.suffix_cons_iff.mp hrest with heq | hsuffix
    · obtain ⟨rfl, rfl⟩ := List.cons.inj heq
      exact hhead rfl
    · exact htail rest hsuffix

instance decidableIsClosed : (s : List Char) → Decidable (IsClosed s)
  | [] => .isTrue isClosed_nil
  | c :: s =>
    have := decidableIsClosed s
    decidable_of_iff _ (isClosed_cons c s).symm

theorem isClosed_append_of_not_mem (s rest : List Char) (hs : '<' ∉ s) (hrest : IsClosed rest) :
    IsClosed (s ++ rest) := by
  induction s with
  | nil => exact hrest
  | cons c s ih =>
    rw [List.mem_cons, not_or] at hs
    rw [List.cons_append, isClosed_cons]
    exact ⟨fun hc => absurd hc.symm hs.1, ih hs.2⟩

theorem IsClosed.of_suffix (s t : List Char) (h : IsClosed s) (ht : t <:+ s) : IsClosed t :=
  fun rest hrest => h rest (hrest.trans ht)

/-- What stands at the head of a closed text and has no closing bracket ends within the text. -/
theorem IsClosed.exists_of_append (s rest t after : List Char) (h : IsClosed s) (hne : s ≠ [])
    (ht : '>' ∉ t) (heq : s ++ rest = '<' :: (t ++ after)) :
    ∃ left, left ≠ [] ∧ s = '<' :: (t ++ left) ∧ after = left ++ rest := by
  obtain ⟨c, s, rfl⟩ := List.exists_cons_of_ne_nil hne
  obtain ⟨rfl, htail⟩ := List.cons.inj heq
  have hclose : '>' ∈ s := ((isClosed_cons _ _).mp h).1 rfl
  rcases List.append_eq_append_iff.mp htail with ⟨a, rfl, -⟩ | ⟨a, rfl, rfl⟩
  · exact absurd (List.mem_append_left a hclose) ht
  · refine ⟨a, ?_, rfl, rfl⟩
    rintro rfl
    rw [List.append_nil] at hclose
    exact ht hclose

namespace Shape

variable {α : Type} (shape : Shape α)

/-- A search goes through two texts one after the other if no span of the first one depends on the
second or reaches into it. -/
theorem findAll_append (s rest : List Char)
    (hhead : ∀ b, b <:+ s → b ≠ [] → shape (b ++ rest) = shape b)
    (hsize : ∀ b found size, b <:+ s → shape b = some (found, size) → size ≤ b.length) :
    shape.findAll (s ++ rest) = shape.findAll s ++ shape.findAll rest := by
  -- The induction runs over places inside of spans as well, which never reach past the seam.
  have hfrom : ∀ skip, skip ≤ s.length →
      shape.findAllFrom skip (s ++ rest) = shape.findAllFrom skip s ++ shape.findAll rest := by
    induction s with
    | nil =>
      intro skip hskip
      rw [Nat.le_zero.mp hskip]
      rfl
    | cons c s ih =>
      have hsuffix := List.suffix_cons c s
      have hrest := ih (fun b hb => hhead b (hb.trans hsuffix))
        (fun b found size hb => hsize b found size (hb.trans hsuffix))
      intro skip hskip
      rw [List.length_cons] at hskip
      cases skip with
      | zero =>
        have hc := hhead (c :: s) (List.suffix_refl _) (List.cons_ne_nil c s)
        rw [List.cons_append] at hc ⊢
        rw [findAllFrom, findAllFrom, hc]
        cases hshape : shape (c :: s) with
        | none => exact hrest 0 (Nat.zero_le _)
        | some found =>
          have hle := hsize (c :: s) found.1 found.2 (List.suffix_refl _) hshape
          rw [List.length_cons] at hle
          exact congrArg (found.1 :: ·) (hrest (found.2 - 1) (by omega))
      | succ skip => exact hrest skip (by omega)
  exact hfrom 0 (Nat.zero_le _)

end Shape

/-! Tags of a closed fragment end in it. -/

section Tags

variable (name : List Char) (hname : IsName name)

include hname

theorem openingTag_append (s rest : List Char) (h : IsClosed s) (hne : s ≠ []) :
    openingTag name (s ++ rest) = openingTag name s := by
  ext ⟨tag, size⟩
  rw [openingTag_eq_some_iff name hname, openingTag_eq_some_iff name hname]
  refine and_congr_right fun htag => and_congr_right fun _ => ?_
  constructor
  · rintro ⟨after, heq⟩
    obtain ⟨t, rfl, -, ht⟩ := htag
    obtain ⟨left, hleft, rfl, hafter⟩ := h.exists_of_append s rest t ('>' :: after) hne ht heq
    obtain ⟨d, left, rfl⟩ := List.exists_cons_of_ne_nil hleft
    obtain ⟨rfl, -⟩ := List.cons.inj hafter
    exact ⟨left, rfl⟩
  · rintro ⟨after, rfl⟩
    exact ⟨after ++ rest, by rw [List.append_assoc, List.cons_append]⟩

theorem findAll_openingTag_append_of_isClosed (s rest : List Char) (h : IsClosed s) :
    (openingTag name).findAll (s ++ rest) =
      (openingTag name).findAll s ++ (openingTag name).findAll rest := by
  apply (openingTag name).findAll_append
  · intro b hb
    exact openingTag_append name hname b rest (h.of_suffix s b hb)
  · intro b tag size _ hfound
    obtain ⟨-, rfl, after, rfl⟩ := (openingTag_eq_some_iff name hname b tag size).mp hfound
    rw [List.length_append, List.length_cons]
    omega

omit hname in
theorem tagStart_eq_some_iff (s : List Char) (found : Unit × Nat) :
    tagStart name s = some found ↔ found.2 = name.length + 1 ∧
      ∃ word after, s = '<' :: (word ++ after) ∧ Spells name word ∧ Text.endsWord after = true := by
  rw [tagStart, Option.map_eq_some_iff]
  constructor
  · rintro ⟨after, hafter, rfl⟩
    obtain ⟨word, hs, hword, hends⟩ := (afterTagName?_eq_some_iff name s after).mp hafter
    exact ⟨rfl, word, after, hs, hword, hends⟩
  · rintro ⟨hsize, word, after, hs, hword, hends⟩
    refine ⟨after, (afterTagName?_eq_some_iff name s after).mpr ⟨word, hs, hword, hends⟩, ?_⟩
    rw [← hsize]

theorem close_not_mem_of_spells (word : List Char) (h : Spells name word) : '>' ∉ word := by
  intro hmem
  have hchar := isWordChar_of_spells name word hname h '>' hmem
  rw [isWordChar_close] at hchar
  cases hchar

theorem tagStart_append (s rest : List Char) (h : IsClosed s) (hne : s ≠ []) :
    tagStart name (s ++ rest) = tagStart name s := by
  have hends : ∀ left : List Char, left ≠ [] →
      Text.endsWord (left ++ rest) = Text.endsWord left := by
    intro left hleft
    obtain ⟨d, left, rfl⟩ := List.exists_cons_of_ne_nil hleft
    rfl
  ext found
  rw [tagStart_eq_some_iff, tagStart_eq_some_iff]
  refine and_congr_right fun _ => ?_
  constructor
  · rintro ⟨word, after, heq, hword, hafter⟩
    obtain ⟨left, hleft, rfl, rfl⟩ := h.exists_of_append s rest word after hne
      (close_not_mem_of_spells name hname word hword) heq
    exact ⟨word, left, rfl, hword, by rwa [hends left hleft] at hafter⟩
  · rintro ⟨word, after, rfl, hword, hafter⟩
    -- The bracket that closes the fragment keeps the word from ending at the seam.
    obtain ⟨left, hleft, -, heq⟩ := h.exists_of_append _ rest word (after ++ rest) hne
      (close_not_mem_of_spells name hname word hword) (by simp)
    obtain rfl : after = left := List.append_cancel_right heq
    exact ⟨word, after ++ rest, by simp, hword, by rwa [hends after hleft]⟩

theorem findAll_tagStart_append (s rest : List Char) (h : IsClosed s) :
    (tagStart name).findAll (s ++ rest) =
      (tagStart name).findAll s ++ (tagStart name).findAll rest := by
  apply (tagStart name).findAll_append
  · intro b hb
    exact tagStart_append name hname b rest (h.of_suffix s b hb)
  · intro b found size _ hfound
    obtain ⟨hsize, word, after, rfl, hword, -⟩ := (tagStart_eq_some_iff name b _).mp hfound
    have hlength : name.length = word.length := hword.length_eq
    change size = _ at hsize
    rw [hsize, List.length_cons, List.length_append]
    omega

end Tags

/-- The beginning of a tag that stands at the head of a closed fragment stands in it. -/
theorem isPrefixOf_append (needle s rest : List Char) (hneedle : '>' ∉ needle) (h : IsClosed s)
    (hne : s ≠ []) : ('<' :: needle).isPrefixOf (s ++ rest) = ('<' :: needle).isPrefixOf s := by
  rw [Bool.eq_iff_iff, List.isPrefixOf_iff_prefix, List.isPrefixOf_iff_prefix]
  constructor
  · rintro ⟨after, heq⟩
    obtain ⟨left, -, rfl, -⟩ := h.exists_of_append s rest needle after hne hneedle heq.symm
    exact List.prefix_append _ _
  · intro hprefix
    exact hprefix.trans (List.prefix_append _ _)

/-- The beginning of a tag occurs in the fragment or in the rest. -/
theorem occursIn_append (needle s rest : List Char) (hneedle : '>' ∉ needle) (h : IsClosed s) :
    occursIn ('<' :: needle) (s ++ rest) =
      (occursIn ('<' :: needle) s || occursIn ('<' :: needle) rest) := by
  induction s with
  | nil => rfl
  | cons c s ih =>
    have hhead := isPrefixOf_append needle (c :: s) rest hneedle h (List.cons_ne_nil c s)
    rw [List.cons_append] at hhead ⊢
    rw [occursIn, occursIn, hhead, ih ((isClosed_cons c s).mp h).2, Bool.or_assoc]

/-! Searches do not tell the forms of the small sigma apart. -/

open Text (unifySigma lowerForm)

theorem isLetter_eq_false_of_not_ascii (letter c : Char) (hletter : letter.isLower = true)
    (hc : 0x80 ≤ c.toNat) (hs : c ≠ '\u017F') (hk : c ≠ '\u212A') : isLetter letter c = false := by
  have hupper : ¬ c.isUpper = true := by
    rw [Text.isUpper_iff_toNat]
    omega
  have hne : c ≠ letter := by
    rintro rfl
    have hascii := Text.toNat_lt_of_isAlpha c (by simp [Char.isAlpha, hletter])
    omega
  simp [isLetter, Char.toLower_eq_of_not_isUpper hupper, hne, hs, hk]

theorem keepsMarkup_unifySigma : KeepsMarkup unifySigma where
  isLetter letter c hletter := by
    unfold unifySigma
    split
    · rename_i hc
      rw [hc, isLetter_eq_false_of_not_ascii letter _ hletter (by decide) (by decide) (by decide),
        isLetter_eq_false_of_not_ascii letter _ hletter (by decide) (by decide) (by decide)]
    · rfl
  isWordChar c := by
    unfold unifySigma
    split
    · rename_i hc
      rw [hc]
      decide +kernel
    · rfl
  opens := Text.unifySigma_eq_iff '<' (by decide) (by decide)
  closes := Text.unifySigma_eq_iff '>' (by decide) (by decide)

section Needle

variable (needle : List Char) (hneedle : ∀ c ∈ needle, c ≠ '\u03C2' ∧ c ≠ '\u03C3')

include hneedle

theorem isPrefixOf_map_unifySigma (s : List Char) :
    needle.isPrefixOf (s.map unifySigma) = needle.isPrefixOf s := by
  induction needle generalizing s with
  | nil => rfl
  | cons letter needle ih =>
    cases s with
    | nil => rfl
    | cons c s =>
      obtain ⟨hfinal, hmedial⟩ := hneedle letter (List.mem_cons_self ..)
      have hletter : (letter == unifySigma c) = (letter == c) := by
        rw [Bool.eq_iff_iff, beq_iff_eq, beq_iff_eq, eq_comm,
          Text.unifySigma_eq_iff letter hfinal hmedial, eq_comm]
      rw [List.map_cons, List.isPrefixOf_cons_cons, List.isPrefixOf_cons_cons, hletter,
        ih (fun d hd => hneedle d (List.mem_cons_of_mem letter hd))]

theorem occursIn_map_unifySigma (s : List Char) :
    occursIn needle (s.map unifySigma) = occursIn needle s := by
  induction s with
  | nil => rfl
  | cons c s ih =>
    have hhead := isPrefixOf_map_unifySigma needle hneedle (c :: s)
    rw [List.map_cons] at hhead ⊢
    rw [occursIn, occursIn, hhead, ih]

end Needle

/-- A closed fragment is closed in lowercase. -/
theorem IsClosed.flatMap_lowerForm (s : List Char) (h : IsClosed s) :
    IsClosed (s.flatMap lowerForm) := by
  induction s with
  | nil => exact isClosed_nil
  | cons c s ih =>
    obtain ⟨hhead, htail⟩ := (isClosed_cons c s).mp h
    rw [List.flatMap_cons]
    by_cases hc : '<' = c
    · subst hc
      have hform : lowerForm '<' = ['<'] := rfl
      have hclose : '>' ∈ s.flatMap lowerForm := List.mem_flatMap.mpr
        ⟨'>', hhead rfl, (Text.mem_lowerForm_iff '>' '>' (by decide) (by decide)).mpr rfl⟩
      rw [hform, List.singleton_append, isClosed_cons]
      exact ⟨fun _ => hclose, ih htail⟩
    · apply isClosed_append_of_not_mem _ _ _ (ih htail)
      rwa [Text.mem_lowerForm_iff '<' c (by decide) (by decide)]

section Lowercase

variable (s rest : List Char) (h : IsClosed s)

include h

theorem isClosed_map_unifySigma_lowercaseChars :
    IsClosed ((Text.lowercaseChars s).map unifySigma) := by
  rw [Text.lowercaseChars, Text.map_unifySigma_lowercaseFrom]
  exact h.flatMap_lowerForm s

/-- The beginning of a tag occurs in a lowered page if it does in one of the lowered parts. -/
theorem occursIn_lowercaseChars_append (needle : List Char) (hclose : '>' ∉ needle)
    (hneedle : ∀ c ∈ '<' :: needle, c ≠ '\u03C2' ∧ c ≠ '\u03C3') :
    occursIn ('<' :: needle) (Text.lowercaseChars (s ++ rest)) =
      (occursIn ('<' :: needle) (Text.lowercaseChars s) ||
        occursIn ('<' :: needle) (Text.lowercaseChars rest)) := by
  have hsplit := occursIn_append needle _ ((Text.lowercaseChars rest).map unifySigma) hclose
    (isClosed_map_unifySigma_lowercaseChars s h)
  rw [← Text.map_unifySigma_lowercaseChars_append] at hsplit
  simpa only [occursIn_map_unifySigma _ hneedle] using hsplit

theorem length_findAll_tagStart_lowercaseChars_append (name : List Char) (hname : IsName name) :
    ((tagStart name).findAll (Text.lowercaseChars (s ++ rest))).length =
      ((tagStart name).findAll (Text.lowercaseChars s)).length +
        ((tagStart name).findAll (Text.lowercaseChars rest)).length := by
  have hsplit := findAll_tagStart_append name hname _ ((Text.lowercaseChars rest).map unifySigma)
    (isClosed_map_unifySigma_lowercaseChars s h)
  rw [← Text.map_unifySigma_lowercaseChars_append] at hsplit
  have hlength := congrArg List.length hsplit
  rwa [List.length_append, keepsMarkup_unifySigma.length_findAll_tagStart_map name hname,
    keepsMarkup_unifySigma.length_findAll_tagStart_map name hname,
    keepsMarkup_unifySigma.length_findAll_tagStart_map name hname] at hlength

/-- The tags of a page are those of the fragment and then those of the rest. -/
theorem tagsNamed_append (name : String) (hname : IsName name.toList) :
    tagsNamed name (s ++ rest) = tagsNamed name s ++ tagsNamed name rest := by
  rw [tagsNamed, findAll_openingTag_append_of_isClosed _ hname s rest h, List.map_append]
  rfl

end Lowercase

theorem Signals.isAscending_directivesOf (html : List Char) :
    (directivesOf html).IsAscending :=
  List.foldlRecOn (motive := Directives.IsAscending) (tagsNamed "meta" html) _
    Directives.isAscending_empty
    fun found hfound tag _ => Directives.isAscending_union found tag.directives hfound

/-- The signals of a page that begins with a closed fragment are put together from those of the
fragment and those of the rest. -/
theorem Signals.ofHtml_append (fragment rest : String) (h : IsClosed fragment.toList) :
    let whole := ofHtml (fragment ++ rest)
    let first := ofHtml fragment
    let second := ofHtml rest
    whole.directives = first.directives.union second.directives ∧
    (∀ directive, directive ∈ whole.directives.toList ↔
      directive ∈ first.directives.toList ∨ directive ∈ second.directives.toList) ∧
    whole.canonical? = first.canonical?.or second.canonical? ∧
    whole.jsonLdCount = first.jsonLdCount + second.jsonLdCount ∧
    whole.content.scriptCount = first.content.scriptCount + second.content.scriptCount ∧
    whole.content.hasMain = (first.content.hasMain || second.content.hasMain) ∧
    whole.content.hasArticle = (first.content.hasArticle || second.content.hasArticle) ∧
    whole.content.hasH1 = (first.content.hasH1 || second.content.hasH1) := by
  intro whole first second
  have htext : (fragment ++ rest).toList = fragment.toList ++ rest.toList := String.toList_append
  have hmember : ∀ directive, directive ∈ whole.directives.toList ↔
      directive ∈ first.directives.toList ∨ directive ∈ second.directives.toList := by
    intro directive
    change directive ∈ (directivesOf (fragment ++ rest).toList).toList ↔
      directive ∈ (directivesOf fragment.toList).toList ∨
        directive ∈ (directivesOf rest.toList).toList
    simp only [mem_toList_directivesOf_iff, htext,
      tagsNamed_append fragment.toList rest.toList h "meta" isName_meta, List.mem_append, or_and_right,
      exists_or]
  have hlandmark := occursIn_lowercaseChars_append fragment.toList rest.toList h
  have hscripts :=
    length_findAll_tagStart_lowercaseChars_append fragment.toList rest.toList h "script".toList
  rw [← htext] at hlandmark hscripts
  refine ⟨?_, hmember, ?_, ?_, ?_, ?_, ?_, ?_⟩
  · apply Directives.IsAscending.ext _ _ (isAscending_directivesOf _)
      (Directives.isAscending_union _ _ (isAscending_directivesOf _))
    intro directive
    rw [Directives.mem_toList_union]
    exact hmember directive
  · change canonicalOf? (fragment ++ rest).toList = _
    rw [canonicalOf?, htext, tagsNamed_append _ _ h "link" isName_link, List.findSome?_append]
    rfl
  · change jsonLdCountOf (fragment ++ rest).toList = _
    rw [jsonLdCountOf, htext, tagsNamed_append _ _ h "script" isName_script, List.countP_append]
    rfl
  · exact hscripts isName_script
  · exact hlandmark "main".toList (by decide) (by simp)
  · exact hlandmark "article".toList (by decide) (by simp)
  · exact hlandmark "h1".toList (by decide) (by simp)

/-- The seam runs between two capital sigmas, the first of which ends a word in its fragment only. -/
theorem Signals.ofHtml_append_at_sigma :
    let fragment := "<meta name=\"robots\" content=\"noindex\">ΟΔΟΣ"
    let rest := "Σ<link rel=\"canonical\" href=\"/a\"><SCRIPT>"
    let whole := ofHtml (fragment ++ rest)
    IsClosed fragment.toList ∧
    Text.lowercase (fragment ++ rest) ≠ Text.lowercase fragment ++ Text.lowercase rest ∧
    whole.directives = ⟨["noindex"]⟩ ∧ whole.canonical? = some "/a" ∧
    whole.content.scriptCount = 1 := by
  intro fragment rest whole
  have hclosed : IsClosed fragment.toList := by decide +kernel
  have hfragment : (ofHtml fragment).directives = ⟨["noindex"]⟩ ∧
      (ofHtml fragment).canonical? = none ∧ (ofHtml fragment).content.scriptCount = 0 := by
    decide +kernel
  have hrest : (ofHtml rest).directives = {} ∧ (ofHtml rest).canonical? = some "/a" ∧
      (ofHtml rest).content.scriptCount = 1 := by
    decide +kernel
  obtain ⟨hdirectives, -, hcanonical, -, hscripts, -⟩ := ofHtml_append fragment rest hclosed
  refine ⟨hclosed, by decide +kernel, ?_, ?_, ?_⟩
  · rw [hdirectives, hfragment.1, hrest.1]
    rfl
  · rw [hcanonical, hfragment.2.1, hrest.2.1]
    rfl
  · rw [hscripts, hfragment.2.2, hrest.2.2]

end Crawlability.Page
