import Crawlability.Page.Scan
import Crawlability.Proofs.Text.Ascii
import Mathlib

/-!
Where the spans of a text stand. The search passes over a stretch in which no span begins and goes
on behind each span that it finds. For opening tags this says which texts are found: a tag reaches
from its bracket to the first closing one, and none is found inside another.
-/
namespace Crawlability.Page

namespace Shape

variable {α : Type} (shape : Shape α)

theorem findAllFrom_eq_findAll_drop (skip : Nat) (s : List Char) :
    shape.findAllFrom skip s = shape.findAll (s.drop skip) := by
  induction skip generalizing s with
  | zero => rfl
  | succ skip ih =>
    cases s with
    | nil => rfl
    | cons c rest => exact ih rest

theorem findAll_cons_of_none (c : Char) (rest : List Char) (h : shape (c :: rest) = none) :
    shape.findAll (c :: rest) = shape.findAll rest := by
  rw [findAll, findAllFrom, h]
  rfl

/-- A span at the head of a text is found, and the search goes on behind it. -/
theorem findAll_cons_of_some (c : Char) (rest : List Char) (found : α) (size : Nat)
    (h : shape (c :: rest) = some (found, size + 1)) :
    shape.findAll (c :: rest) = found :: shape.findAll (rest.drop size) := by
  rw [findAll, findAllFrom, h]
  exact congrArg (found :: ·) (shape.findAllFrom_eq_findAll_drop size rest)

/-- No span begins in a stretch if none begins with a character of it. -/
theorem eq_none_of_suffix (s rest : List Char)
    (h : ∀ c ∈ s, ∀ after, shape (c :: after) = none) (b : List Char) (hb : b <:+ s)
    (hne : b ≠ []) : shape (b ++ rest) = none := by
  obtain ⟨c, b, rfl⟩ := List.exists_cons_of_ne_nil hne
  exact h c (hb.subset (List.mem_cons_self ..)) (b ++ rest)

/-- A stretch in which no span begins is passed over. -/
theorem findAll_append_of_none (s rest : List Char)
    (h : ∀ b, b <:+ s → b ≠ [] → shape (b ++ rest) = none) :
    shape.findAll (s ++ rest) = shape.findAll rest := by
  induction s with
  | nil => rfl
  | cons c s ih =>
    have hhead : shape (c :: (s ++ rest)) = none :=
      h (c :: s) (List.suffix_refl _) (List.cons_ne_nil c s)
    have htail : ∀ b, b <:+ s → b ≠ [] → shape (b ++ rest) = none :=
      fun b hb => h b (hb.trans (List.suffix_cons c s))
    rw [List.cons_append, findAll_cons_of_none shape c _ hhead, ih htail]

theorem findAll_append_of_some (s rest : List Char) (found : α) (hne : s ≠ [])
    (h : shape (s ++ rest) = some (found, s.length)) :
    shape.findAll (s ++ rest) = found :: shape.findAll rest := by
  cases s with
  | nil => exact absurd rfl hne
  | cons c s =>
    rw [List.cons_append] at h ⊢
    rw [findAll_cons_of_some shape c (s ++ rest) found s.length h, List.drop_left]

end Shape

theorem upTo?_eq_some_iff (close : Char) (s before rest : List Char) :
    upTo? close s = some (before, rest) ↔ s = before ++ close :: rest ∧ close ∉ before := by
  induction s generalizing before with
  | nil => simp [upTo?]
  | cons c s ih =>
    by_cases hc : c = close
    · subst hc
      rw [upTo?, if_pos rfl]
      constructor
      · rintro ⟨⟩
        exact ⟨rfl, List.not_mem_nil⟩
      · rintro ⟨hs, hbefore⟩
        cases before with
        | nil => rw [(List.cons.inj hs).2]
        | cons d before =>
          rw [(List.cons.inj hs).1] at hbefore
          exact absurd (List.mem_cons_self ..) hbefore
    · rw [upTo?, if_neg hc, Option.map_eq_some_iff]
      constructor
      · rintro ⟨⟨inside, after⟩, hsome, heq⟩
        obtain ⟨rfl, rfl⟩ := Prod.mk.inj heq
        obtain ⟨hs, hinside⟩ := (ih inside).mp hsome
        refine ⟨by rw [hs, List.cons_append], ?_⟩
        rw [List.mem_cons, not_or]
        exact ⟨Ne.symm hc, hinside⟩
      · rintro ⟨hs, hbefore⟩
        cases before with
        | nil => exact absurd (List.cons.inj hs).1 hc
        | cons d before =>
          obtain ⟨rfl, htail⟩ := List.cons.inj hs
          rw [List.mem_cons, not_or] at hbefore
          exact ⟨(before, rest), (ih before).mpr ⟨htail, hbefore.2⟩, rfl⟩

/-- A text is cut at its first closing character in one way. -/
theorem append_cons_inj (close : Char) (s t u v : List Char) (hs : close ∉ s) (ht : close ∉ t)
    (h : s ++ close :: u = t ++ close :: v) : s = t ∧ u = v := by
  have hcut := (upTo?_eq_some_iff close _ s u).mpr ⟨h.symm, hs⟩
  rw [(upTo?_eq_some_iff close _ t v).mpr ⟨rfl, ht⟩] at hcut
  obtain ⟨rfl, rfl⟩ := Prod.mk.inj (Option.some.inj hcut)
  exact ⟨rfl, rfl⟩

/-- The word is the name, its letters in any case. -/
def Spells (name word : List Char) : Prop :=
  List.Forall₂ (fun letter c => isLetter letter c = true) name word

theorem afterName?_eq_some_iff (name s rest : List Char) :
    afterName? name s = some rest ↔ ∃ word, s = word ++ rest ∧ Spells name word := by
  induction name generalizing s with
  | nil =>
    constructor
    · rintro ⟨⟩
      exact ⟨[], rfl, List.Forall₂.nil⟩
    · rintro ⟨word, rfl, hword⟩
      cases hword
      rfl
  | cons letter name ih =>
    cases s with
    | nil =>
      constructor
      · rintro ⟨⟩
      · rintro ⟨word, hs, hword⟩
        cases hword
        cases hs
    | cons c s =>
      rw [afterName?]
      split
      · rename_i hletter
        rw [ih]
        constructor
        · rintro ⟨word, rfl, hword⟩
          exact ⟨c :: word, rfl, List.Forall₂.cons hletter hword⟩
        · rintro ⟨word, hs, hword⟩
          cases hword with
          | cons _ hrest => exact ⟨_, (List.cons.inj hs).2, hrest⟩
      · rename_i hletter
        constructor
        · rintro ⟨⟩
        · rintro ⟨word, hs, hword⟩
          cases hword with
          | cons hfirst _ =>
            rw [← (List.cons.inj hs).1] at hfirst
            exact absurd hfirst hletter

/-- The name of a tag is in lowercase letters of ASCII. -/
def IsName (name : List Char) : Prop := ∀ letter ∈ name, letter.isLower = true

instance : DecidablePred IsName :=
  fun name => inferInstanceAs (Decidable (∀ letter ∈ name, letter.isLower = true))

/-- What stands for a letter of a name, in whatever form, is a character of a word. -/
theorem isWordChar_of_isLetter (letter c : Char) (hletter : letter.isLower = true)
    (h : isLetter letter c = true) : Text.isWordChar c = true := by
  simp only [isLetter, Bool.or_eq_true, Bool.and_eq_true, beq_iff_eq] at h
  rcases h with (hlower | ⟨-, rfl⟩) | ⟨-, rfl⟩
  · apply Text.isWordChar_of_isAlphanum
    rw [Char.isAlphanum, ← Char.isAlpha_toLower_eq_isAlpha, hlower, Char.isAlpha, hletter]
    simp
  · decide +kernel
  · decide +kernel

theorem isWordChar_of_spells (name word : List Char) (hname : IsName name)
    (h : Spells name word) : ∀ c ∈ word, Text.isWordChar c = true := by
  induction h with
  | nil => simp
  | @cons letter c name word hletter _ ih =>
    have hrest := ih (fun d hd => hname d (List.mem_cons_of_mem letter hd))
    intro d hd
    rcases List.mem_cons.mp hd with rfl | hd
    · exact isWordChar_of_isLetter letter d (hname letter (List.mem_cons_self ..)) hletter
    · exact hrest d hd

theorem isWordChar_close : Text.isWordChar '>' = false := by decide

theorem endsWord_iff (s : List Char) :
    Text.endsWord s = true ↔ s.takeWhile Text.isWordChar = [] := by
  cases s with
  | nil => simp [Text.endsWord]
  | cons c s => cases h : Text.isWordChar c <;> simp [Text.endsWord, h]

theorem endsWord_append_close (s rest : List Char) :
    Text.endsWord (s ++ '>' :: rest) = Text.endsWord s := by
  cases s with
  | nil => simp [Text.endsWord, isWordChar_close]
  | cons c s => rfl

theorem endsWord_dropWhile (s : List Char) :
    Text.endsWord (s.dropWhile Text.isWordChar) = true := by
  cases h : s.dropWhile Text.isWordChar with
  | nil => rfl
  | cons c rest =>
    have hc := List.head?_dropWhile_not Text.isWordChar s
    rw [h, List.head?_cons] at hc
    simp [Text.endsWord, hc]

/-- The word in front of a text that does not go on with a word. -/
theorem takeWhile_isWordChar_append (word rest : List Char)
    (hword : ∀ c ∈ word, Text.isWordChar c = true) (hrest : Text.endsWord rest = true) :
    (word ++ rest).takeWhile Text.isWordChar = word := by
  rw [List.takeWhile_append_of_pos hword, (endsWord_iff rest).mp hrest, List.append_nil]

/-- The text is a tag of the name, from its bracket up to where it is closed: the word behind the
bracket is the name. -/
def IsTag (name tag : List Char) : Prop :=
  ∃ s, tag = '<' :: s ∧ Spells name (s.takeWhile Text.isWordChar) ∧ '>' ∉ s

/-- The page has the tag: the text stands in it, is closed right behind, and no tag of the name that
opens further left is still open there. -/
def HasTag (name html tag : List Char) : Prop :=
  ∃ before after, html = before ++ tag ++ '>' :: after ∧ IsTag name tag ∧
    ∀ b, b <:+ before → b ≠ [] → ¬ IsTag name (b ++ tag)

theorem IsTag.close_not_mem (name tag : List Char) (h : IsTag name tag) : '>' ∉ tag := by
  obtain ⟨s, rfl, -, hs⟩ := h
  rw [List.mem_cons, not_or]
  exact ⟨by decide, hs⟩

section Tags

variable (name : List Char)

theorem afterTagName?_eq_some_iff (s rest : List Char) : afterTagName? name s = some rest ↔
    ∃ word, s = '<' :: (word ++ rest) ∧ Spells name word ∧ Text.endsWord rest = true := by
  unfold afterTagName?
  split
  · rename_i s
    cases hafter : afterName? name s with
    | none =>
      constructor
      · rintro ⟨⟩
      · rintro ⟨word, hs, hword, -⟩
        have hsome := (afterName?_eq_some_iff name s rest).mpr ⟨word, (List.cons.inj hs).2, hword⟩
        rw [hafter] at hsome
        cases hsome
    | some found =>
      obtain ⟨word, rfl, hword⟩ := (afterName?_eq_some_iff name s found).mp hafter
      simp only [Option.ite_none_right_eq_some, Option.some.injEq]
      constructor
      · rintro ⟨hends, rfl⟩
        exact ⟨word, rfl, hword, hends⟩
      · rintro ⟨word', hs, hword', hends⟩
        -- The name has one length in all forms, so that it ends at one place.
        have hlength : word.length = word'.length := hword.length_eq.symm.trans hword'.length_eq
        obtain ⟨-, rfl⟩ := List.append_inj (List.cons.inj hs).2 hlength
        exact ⟨hends, rfl⟩
  · rename_i hbracket
    constructor
    · rintro ⟨⟩
    · rintro ⟨word, rfl, -⟩
      exact absurd rfl (hbracket _)

/-- A name as a whole word and what follows it up to the first closing bracket are found. -/
theorem openingTag_cons (word inside rest : List Char) (hword : Spells name word)
    (hends : Text.endsWord inside = true) (hinside : '>' ∉ inside) :
    openingTag name ('<' :: (word ++ inside) ++ '>' :: rest) =
      some ('<' :: (word ++ inside), ('<' :: (word ++ inside)).length + 1) := by
  have htext : '<' :: (word ++ inside) ++ '>' :: rest = '<' :: (word ++ (inside ++ '>' :: rest)) := by
    rw [List.cons_append, List.append_assoc]
  have hafter : afterTagName? name ('<' :: (word ++ inside) ++ '>' :: rest) =
      some (inside ++ '>' :: rest) := by
    rw [htext, afterTagName?_eq_some_iff]
    exact ⟨word, rfl, hword, by rwa [endsWord_append_close]⟩
  have hupTo : upTo? '>' (inside ++ '>' :: rest) = some (inside, rest) :=
    (upTo?_eq_some_iff '>' _ inside rest).mpr ⟨rfl, hinside⟩
  have hlength : name.length + inside.length + 1 = ('<' :: (word ++ inside)).length := by
    have hspelled : name.length = word.length := hword.length_eq
    simp only [List.length_cons, List.length_append]
    omega
  simp only [openingTag, hafter, hupTo]
  change some (List.take (name.length + inside.length + 1) _, name.length + inside.length + 1 + 1) =
    _
  rw [hlength, List.take_left]

variable (hname : IsName name)

include hname

/-- The tags that are found at the head of a text are those that are closed in it. -/
theorem openingTag_eq_some_iff (s tag : List Char) (size : Nat) :
    openingTag name s = some (tag, size) ↔
      IsTag name tag ∧ size = tag.length + 1 ∧ ∃ rest, s = tag ++ '>' :: rest := by
  constructor
  · intro h
    have hfound : ∃ word inside rest, s = '<' :: (word ++ inside) ++ '>' :: rest ∧
        Spells name word ∧ Text.endsWord inside = true ∧ '>' ∉ inside := by
      unfold openingTag at h
      split at h
      · cases h
      · rename_i after hafter
        obtain ⟨word, rfl, hword, hends⟩ := (afterTagName?_eq_some_iff name s after).mp hafter
        split at h
        · cases h
        · rename_i inside rest hupTo
          obtain ⟨rfl, hinside⟩ := (upTo?_eq_some_iff '>' after inside rest).mp hupTo
          rw [endsWord_append_close] at hends
          exact ⟨word, inside, rest, by simp, hword, hends, hinside⟩
    obtain ⟨word, inside, rest, rfl, hword, hends, hinside⟩ := hfound
    rw [openingTag_cons name word inside rest hword hends hinside] at h
    obtain ⟨rfl, rfl⟩ := Prod.mk.inj (Option.some.inj h)
    have hwordChars := isWordChar_of_spells name word hname hword
    refine ⟨⟨word ++ inside, rfl, ?_, ?_⟩, rfl, rest, rfl⟩
    · rwa [takeWhile_isWordChar_append word inside hwordChars hends]
    · rw [List.mem_append, not_or]
      refine ⟨?_, hinside⟩
      intro hmem
      have hclose := hwordChars '>' hmem
      rw [isWordChar_close] at hclose
      cases hclose
  · rintro ⟨⟨t, rfl, hword, hclosed⟩, rfl, rest, rfl⟩
    have hsplit := List.takeWhile_append_dropWhile (p := Text.isWordChar) (l := t)
    have hinside : '>' ∉ t.dropWhile Text.isWordChar :=
      fun hmem => hclosed ((List.dropWhile_suffix _).subset hmem)
    have hfound := openingTag_cons name _ _ rest hword (endsWord_dropWhile t) hinside
    rwa [hsplit] at hfound

/-- Behind an opening bracket that is no tag of the name, no tag of it is open either. -/
theorem openingTag_eq_none (s : List Char) (h : ∀ tag rest, s = tag ++ '>' :: rest →
    ¬ IsTag name tag) : openingTag name s = none := by
  cases hfound : openingTag name s with
  | none => rfl
  | some found =>
    obtain ⟨tag, size⟩ := found
    obtain ⟨htag, -, rest, hs⟩ := (openingTag_eq_some_iff name hname s tag size).mp hfound
    exact absurd htag (h tag rest hs)

/-- A tag at the head of a text is found, and the search goes on behind its closing bracket. -/
theorem findAll_openingTag_append (tag rest : List Char) (htag : IsTag name tag) :
    (openingTag name).findAll (tag ++ '>' :: rest) = tag :: (openingTag name).findAll rest := by
  have hfound := (openingTag_eq_some_iff name hname (tag ++ '>' :: rest) tag _).mpr
    ⟨htag, rfl, rest, rfl⟩
  obtain ⟨s, rfl, -⟩ := htag
  rw [List.cons_append] at hfound ⊢
  rw [(openingTag name).findAll_cons_of_some '<' _ _ _ hfound]
  simp

theorem hasTag_cons_of_none (c : Char) (rest tag : List Char)
    (h : openingTag name (c :: rest) = none) :
    HasTag name (c :: rest) tag ↔ HasTag name rest tag := by
  have hnone : ∀ t after, c :: rest = t ++ '>' :: after → ¬ IsTag name t := by
    intro t after hs ht
    rw [(openingTag_eq_some_iff name hname _ t _).mpr ⟨ht, rfl, after, hs⟩] at h
    cases h
  constructor
  · rintro ⟨before, after, hs, htag, hopen⟩
    cases before with
    | nil => exact absurd htag (hnone tag after hs)
    | cons d before =>
      refine ⟨before, after, (List.cons.inj hs).2, htag, ?_⟩
      intro b hb
      exact hopen b (hb.trans (List.suffix_cons d before))
  · rintro ⟨before, after, rfl, htag, hopen⟩
    refine ⟨c :: before, after, rfl, htag, ?_⟩
    intro b hb hne
    rcases List.suffix_cons_iff.mp hb with rfl | hb
    · exact hnone _ after rfl
    · exact hopen b hb hne

omit hname in
/-- A page that begins with a tag has this one and those behind it. -/
theorem hasTag_append (first rest tag : List Char) (hfirst : IsTag name first) :
    HasTag name (first ++ '>' :: rest) tag ↔ tag = first ∨ HasTag name rest tag := by
  constructor
  · rintro ⟨before, after, hs, htag, hopen⟩
    rw [List.append_assoc] at hs
    rcases List.append_eq_append_iff.mp hs with ⟨a, rfl, ha⟩ | ⟨a, rfl, ha⟩
    · -- The tag stands behind the closing bracket of the first one.
      cases a with
      | nil =>
        obtain ⟨t, rfl, -⟩ := htag
        cases ha
      | cons d a =>
        right
        have hrest : rest = a ++ tag ++ '>' :: after := by
          rw [(List.cons.inj ha).2, List.append_assoc]
          rfl
        refine ⟨a, after, hrest, htag, ?_⟩
        intro b hb
        exact hopen b (hb.trans ((List.suffix_cons d a).trans (List.suffix_append _ _)))
    · -- The tag begins within the first one, and so both end at the same bracket.
      left
      have ha' : '>' ∉ a := fun hmem =>
        hfirst.close_not_mem name _ (List.mem_append_right before hmem)
      obtain ⟨rfl, -⟩ := append_cons_inj '>' tag a after rest (htag.close_not_mem name _) ha' ha
      cases before with
      | nil => rfl
      | cons d before => exact absurd hfirst (hopen _ (List.suffix_refl _) (List.cons_ne_nil _ _))
  · rintro (rfl | ⟨before, after, rfl, htag, hopen⟩)
    · refine ⟨[], rest, rfl, hfirst, ?_⟩
      intro b hb hne
      exact absurd (List.suffix_nil.mp hb) hne
    · refine ⟨first ++ '>' :: before, after, by simp, htag, ?_⟩
      rintro b ⟨a, hab⟩ hne hopened
      have hclosed : '>' ∉ b := fun hmem =>
        hopened.close_not_mem name _ (List.mem_append_left tag hmem)
      rcases List.append_eq_append_iff.mp hab with ⟨c, -, rfl⟩ | ⟨c, -, hc⟩
      · exact hclosed (List.mem_append_right c (List.mem_cons_self ..))
      · cases c with
        | nil =>
          rw [List.nil_append] at hc
          exact hclosed (hc ▸ List.mem_cons_self ..)
        | cons d c =>
          have hb : b <:+ before := ⟨c, (List.cons.inj hc).2.symm⟩
          exact hopen b hb hne hopened

/-- The search finds the tags that the page has. -/
theorem mem_findAll_openingTag_iff (html tag : List Char) :
    tag ∈ (openingTag name).findAll html ↔ HasTag name html tag := by
  induction hsize : html.length using Nat.strong_induction_on generalizing html with
  | h size ih =>
    subst hsize
    cases html with
    | nil =>
      constructor
      · rintro ⟨⟩
      · rintro ⟨before, after, hs, -⟩
        simp at hs
    | cons c rest =>
      cases hfound : openingTag name (c :: rest) with
      | none =>
        rw [(openingTag name).findAll_cons_of_none c rest hfound,
          hasTag_cons_of_none name hname c rest tag hfound]
        exact ih rest.length (Nat.lt_succ_self _) rest rfl
      | some found =>
        obtain ⟨first, size⟩ := found
        obtain ⟨hfirst, -, after, hs⟩ := (openingTag_eq_some_iff name hname _ first size).mp hfound
        have hshorter : after.length < (c :: rest).length := by
          rw [hs, List.length_append, List.length_cons]
          omega
        rw [hs, findAll_openingTag_append name hname first after hfirst, List.mem_cons,
          hasTag_append name first after tag hfirst, ih after.length hshorter after rfl]

end Tags

end Crawlability.Page
