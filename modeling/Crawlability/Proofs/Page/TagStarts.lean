import Crawlability.Proofs.Page.Fragments
import Crawlability.Proofs.Text.Words

/-!
Where tags begin. The beginning of a tag is a bracket and a name, and no other bracket is in it, so
beginnings do not overlap and a search for them finds all that there are. Opening tags are some of
the beginnings. Lowercasing keeps each of them in its place: the letters of the name stay forms of
the same letters, and the word that the name is ends where it ended. So a page has at most as many
blocks of structured data as it has scripts, although these are counted on the lowered page.
-/
namespace Crawlability.Page

namespace Shape

variable {α : Type} (shape : Shape α)

/-- A span begins at the head of the text. -/
def begins (s : List Char) : Bool := (shape s).isSome

/-- The same spans, but what is found is the text from the beginning of the span on. -/
def onward : Shape (List Char) := fun s => (shape s).map fun found => (s, found.2)

theorem onward_of_none (s : List Char) (h : shape s = none) : shape.onward s = none := by
  rw [onward, h, Option.map_none]

theorem onward_of_some (s : List Char) (found : α) (size : Nat) (h : shape s = some (found, size)) :
    shape.onward s = some (s, size) := by
  rw [onward, h, Option.map_some]

theorem length_findAll_onward (s : List Char) :
    (shape.onward.findAll s).length = (shape.findAll s).length := by
  have hfrom : ∀ skip,
      (shape.onward.findAllFrom skip s).length = (shape.findAllFrom skip s).length := by
    induction s with
    | nil =>
      intro skip
      cases skip <;> rfl
    | cons c rest ih =>
      intro skip
      cases skip with
      | zero =>
        cases hshape : shape (c :: rest) with
        | none =>
          rw [findAllFrom, findAllFrom, hshape, shape.onward_of_none _ hshape]
          exact ih 0
        | some found =>
          rw [findAllFrom, findAllFrom, hshape, shape.onward_of_some _ _ _ hshape]
          exact congrArg Nat.succ (ih (found.2 - 1))
      | succ skip => exact ih skip
  exact hfrom 0

/-- A search goes through the places where the shape matches, from left to right. -/
theorem findAll_onward_sublist (s : List Char) :
    (shape.onward.findAll s).Sublist (s.tails.filter shape.begins) := by
  have hfrom : ∀ skip,
      (shape.onward.findAllFrom skip s).Sublist (s.tails.filter shape.begins) := by
    induction s with
    | nil =>
      intro skip
      cases skip <;> exact List.nil_sublist _
    | cons c rest ih =>
      intro skip
      rw [List.tails_cons]
      cases skip with
      | zero =>
        cases hshape : shape (c :: rest) with
        | none =>
          rw [findAllFrom, shape.onward_of_none _ hshape,
            List.filter_cons_of_neg (by simp [begins, hshape])]
          exact ih 0
        | some found =>
          rw [findAllFrom, shape.onward_of_some _ _ _ hshape,
            List.filter_cons_of_pos (by simp [begins, hshape])]
          exact (ih (found.2 - 1)).cons_cons _
      | succ skip => exact (ih skip).trans ((List.sublist_cons_self _ _).filter _)
  exact hfrom 0

end Shape

theorem tagStart_cons_of_ne (name : List Char) (c : Char) (rest : List Char) (hc : c ≠ '<') :
    tagStart name (c :: rest) = none := by
  rw [Option.eq_none_iff_forall_ne_some]
  rintro found hfound
  obtain ⟨-, word, after, heq, -⟩ := (tagStart_eq_some_iff name _ found).mp hfound
  exact hc (List.cons.inj heq).1

/-- An opening tag begins like a tag. -/
theorem begins_tagStart_of_openingTag (name s : List Char)
    (h : (openingTag name).begins s = true) : (tagStart name).begins s = true := by
  rw [Shape.begins, tagStart, Option.isSome_map]
  unfold Shape.begins openingTag at h
  split at h
  · cases h
  · rename_i rest hafter
    rw [hafter, Option.isSome_some]

/-- The second text is the lowercase of the first, at some place of a page. -/
def IsLowered (s t : List Char) : Prop := ∃ inWord, t = Text.lowercaseFrom inWord s

theorem tails_sublist_append (s t : List Char) : t.tails.Sublist (s ++ t).tails := by
  induction s with
  | nil => exact List.Sublist.refl _
  | cons c s ih =>
    rw [List.cons_append, List.tails_cons]
    exact ih.cons _

theorem sublistForall₂_of_sublist {α β : Type} {R : α → β → Prop} (l l₁ : List α) (l₂ : List β)
    (hsub : l.Sublist l₁) (h : List.SublistForall₂ R l₁ l₂) : List.SublistForall₂ R l l₂ := by
  induction h generalizing l with
  | nil =>
    rw [List.sublist_nil.mp hsub]
    exact .nil
  | cons hhead _ ih =>
    cases hsub with
    | cons _ hrest => exact .cons_right (ih _ hrest)
    | cons_cons _ hrest => exact .cons hhead (ih _ hrest)
  | cons_right _ ih => exact .cons_right (ih l hsub)

section Names

variable (name : List Char) (hname : IsName name)

include hname

/-- The name of a tag holds no opening bracket. -/
theorem open_not_mem_of_spells (word : List Char) (h : Spells name word) : '<' ∉ word := by
  intro hmem
  have hchar := isWordChar_of_spells name word hname h '<' hmem
  exact absurd hchar (by decide)

/-- A search finds every beginning of a tag. -/
theorem findAll_onward_tagStart (s : List Char) : (tagStart name).onward.findAll s =
    s.tails.filter (tagStart name).begins := by
  induction s with
  | nil => rfl
  | cons c rest ih =>
    rw [List.tails_cons]
    cases hstart : tagStart name (c :: rest) with
    | none =>
      rw [Shape.findAll_cons_of_none _ c rest ((tagStart name).onward_of_none _ hstart),
        List.filter_cons_of_neg (by simp [Shape.begins, hstart]), ih]
    | some found =>
      obtain ⟨hsize, word, after, heq, hword, -⟩ := (tagStart_eq_some_iff name _ found).mp hstart
      obtain ⟨-, rfl⟩ := List.cons.inj heq
      have hlength : name.length = word.length := hword.length_eq
      have hopen := open_not_mem_of_spells name hname word hword
      -- The search goes on behind the name, in which no tag begins.
      have hskipped : (tagStart name).onward.findAll (word ++ after) =
          (tagStart name).onward.findAll after := by
        apply Shape.findAll_append_of_none
        apply Shape.eq_none_of_suffix
        intro d hd rest
        have hne : d ≠ '<' := ne_of_mem_of_not_mem hd hopen
        exact (tagStart name).onward_of_none _ (tagStart_cons_of_ne name d rest hne)
      have hfound := (tagStart name).onward_of_some _ _ _ hstart
      rw [hsize] at hfound
      rw [Shape.findAll_cons_of_some _ c _ _ _ hfound,
        List.filter_cons_of_pos (by simp [Shape.begins, hstart]), ← ih, hskipped, hlength,
        List.drop_left]

theorem findAll_onward_openingTag_sublist (s : List Char) :
    ((openingTag name).onward.findAll s).Sublist ((tagStart name).onward.findAll s) := by
  rw [findAll_onward_tagStart name hname]
  exact ((openingTag name).findAll_onward_sublist s).trans
    (List.monotone_filter_right _ (begins_tagStart_of_openingTag name))

/-- A form of a letter of a name is lowered to a form of that letter. -/
theorem exists_lowerAt_of_isLetter (inWord : Bool) (letter c : Char) (rest : List Char)
    (hletter : letter ∈ name) (h : isLetter letter c = true) :
    ∃ d, Text.lowerAt inWord c rest = [d] ∧ isLetter letter d = true := by
  simp only [isLetter, Bool.or_eq_true, Bool.and_eq_true, beq_iff_eq] at h
  rcases h with (hlower | ⟨rfl, rfl⟩) | ⟨rfl, rfl⟩
  · have hsmall : letter.isAlpha = true := by simp [Char.isAlpha, hname letter hletter]
    have hascii : c.toNat < 0x80 :=
      Text.toNat_lt_of_toLower c (hlower ▸ Text.toNat_lt_of_isAlpha letter hsmall)
    refine ⟨c.toLower, Text.lowerAt_of_ascii inWord c rest hascii, ?_⟩
    rw [hlower]
    simp [isLetter, Text.toLower_of_isLower letter (hname letter hletter)]
  · have hsame : Text.lowerChar '\u017F' = ['\u017F'] := by decide +kernel
    exact ⟨'\u017F', hsame, by decide⟩
  · have hkelvin : Text.lowerChar '\u212A' = ['k'] := by decide +kernel
    exact ⟨'k', hkelvin, by decide⟩

omit hname in
theorem lowercaseFrom_open (inWord : Bool) (s : List Char) : Text.lowercaseFrom inWord ('<' :: s) =
    '<' :: Text.lowercaseFrom (Text.inWordAfter inWord '<') s := by
  rw [Text.lowercaseFrom_cons, Text.lowerAt_of_ascii inWord '<' s (by decide)]
  rfl

/-- A name in front of a text is a name in front of the lowered text. -/
theorem exists_lowercaseFrom_of_spells (inWord : Bool) (word after : List Char)
    (h : Spells name word) : ∃ word' inWord', Spells name word' ∧
      Text.lowercaseFrom inWord (word ++ after) = word' ++ Text.lowercaseFrom inWord' after := by
  induction h generalizing inWord with
  | nil => exact ⟨[], inWord, List.Forall₂.nil, rfl⟩
  | @cons letter c name word hletter _ ih =>
    have hrest : IsName name := fun d hd => hname d (List.mem_cons_of_mem letter hd)
    obtain ⟨d, hd, hform⟩ := exists_lowerAt_of_isLetter _ hname inWord letter c (word ++ after)
      (List.mem_cons_self ..) hletter
    obtain ⟨word', inWord', hspells, heq⟩ := ih hrest (Text.inWordAfter inWord c)
    refine ⟨d :: word', inWord', List.Forall₂.cons hform hspells, ?_⟩
    rw [List.cons_append, Text.lowercaseFrom_cons, hd, heq]
    rfl

/-- Where a tag begins in a text, one begins in the lowered text. -/
theorem begins_tagStart_lowercaseFrom (inWord : Bool) (s : List Char)
    (h : (tagStart name).begins s = true) :
    (tagStart name).begins (Text.lowercaseFrom inWord s) = true := by
  obtain ⟨found, hfound⟩ := Option.isSome_iff_exists.mp h
  obtain ⟨-, word, after, rfl, hword, hends⟩ := (tagStart_eq_some_iff name s found).mp hfound
  obtain ⟨word', inWord', hspells, heq⟩ := exists_lowercaseFrom_of_spells name hname
    (Text.inWordAfter inWord '<') word after hword
  rw [lowercaseFrom_open, heq, Shape.begins, Option.isSome_iff_exists]
  have hends' := Text.endsWord_lowercaseFrom inWord' after hends
  exact ⟨((), name.length + 1),
    (tagStart_eq_some_iff name _ _).mpr ⟨rfl, word', _, rfl, hspells, hends'⟩⟩

/-- Every beginning of a tag is one of the lowered text, each in its own place. -/
theorem sublistForall₂_tagStart_lowercaseFrom (inWord : Bool) (s : List Char) :
    List.SublistForall₂ IsLowered ((tagStart name).onward.findAll s)
      ((tagStart name).onward.findAll (Text.lowercaseFrom inWord s)) := by
  rw [findAll_onward_tagStart name hname, findAll_onward_tagStart name hname]
  induction s generalizing inWord with
  | nil => exact .nil
  | cons c rest ih =>
    have hrest := ih (Text.inWordAfter inWord c)
    rw [List.tails_cons]
    by_cases hstart : (tagStart name).begins (c :: rest) = true
    · have hc : c = '<' := by
        by_contra hne
        rw [Shape.begins, tagStart_cons_of_ne name c rest hne] at hstart
        cases hstart
      subst hc
      have hlowered := begins_tagStart_lowercaseFrom name hname inWord _ hstart
      rw [lowercaseFrom_open] at hlowered ⊢
      rw [List.tails_cons, List.filter_cons_of_pos hstart, List.filter_cons_of_pos hlowered]
      exact .cons ⟨inWord, (lowercaseFrom_open inWord rest).symm⟩ hrest
    · rw [List.filter_cons_of_neg hstart, Text.lowercaseFrom_cons]
      obtain ⟨counted, hforall, hsublist⟩ := List.sublistForall₂_iff.mp hrest
      exact List.sublistForall₂_iff.mpr
        ⟨counted, hforall, hsublist.trans ((tails_sublist_append _ _).filter _)⟩

end Names

/-- Every script tag that is found in a page, whether it holds structured data or not, is counted in
the lowered page, in its place and once. So there are no more blocks of structured data than there
are scripts. -/
theorem Signals.jsonLdCount_le_scriptCount (html : String) :
    (ofHtml html).jsonLdCount ≤ (ofHtml html).content.scriptCount ∧
    ∃ counted : List (List Char),
      counted.Sublist
        ((tagStart "script".toList).onward.findAll (Text.lowercaseChars html.toList)) ∧
      List.Forall₂ IsLowered ((openingTag "script".toList).onward.findAll html.toList) counted := by
  have hstarts : List.SublistForall₂ IsLowered
      ((tagStart "script".toList).onward.findAll html.toList)
      ((tagStart "script".toList).onward.findAll (Text.lowercaseChars html.toList)) :=
    sublistForall₂_tagStart_lowercaseFrom _ isName_script false html.toList
  have htags := findAll_onward_openingTag_sublist _ isName_script html.toList
  obtain ⟨counted, hforall, hsublist⟩ :=
    List.sublistForall₂_iff.mp (sublistForall₂_of_sublist _ _ _ htags hstarts)
  refine ⟨?_, counted, hsublist, hforall⟩
  have hblocks : (ofHtml html).jsonLdCount ≤
      ((openingTag "script".toList).findAll html.toList).length := by
    have hcount := List.countP_le_length (p := (·.is "type" "application/ld+json"))
      (l := tagsNamed "script" html.toList)
    rwa [tagsNamed, List.length_map] at hcount
  have hlength := hforall.length_eq
  have hcounted := hsublist.length_le
  rw [Shape.length_findAll_onward] at hlength hcounted
  change _ ≤ ((tagStart "script".toList).findAll (Text.lowercaseChars html.toList)).length
  omega

/-- The long s is a form of a letter of the name, and a tag may begin inside of another one. -/
example :
    let page := Signals.ofHtml "<\u017FCRIPT<script type=\"application/ld+json\"><SCR\u0130PT>"
    page.jsonLdCount = 1 ∧ page.content.scriptCount = 2 := by
  decide +kernel

end Crawlability.Page
