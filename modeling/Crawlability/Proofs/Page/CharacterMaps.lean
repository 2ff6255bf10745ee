import Crawlability.Proofs.Page.Spans

/-!
Searches and changes of single characters. A change that leaves the brackets, the word characters
and the forms of each letter as they are moves no span: what is found in the changed text is what is
found in the text, changed in the same way.
-/
namespace Crawlability.Page

/-- The change keeps what a search for tags looks at. -/
structure KeepsMarkup (f : Char → Char) : Prop where
  isLetter : ∀ letter c, letter.isLower = true → isLetter letter (f c) = isLetter letter c
  isWordChar : ∀ c, Text.isWordChar (f c) = Text.isWordChar c
  opens : ∀ c, f c = '<' ↔ c = '<'
  closes : ∀ c, f c = '>' ↔ c = '>'

/-- If a change of the text changes what stands at its head, it changes all that is found. -/
theorem Shape.findAll_map {α : Type} (shape : Shape α) (f : Char → Char) (g : α → α)
    (h : ∀ s, shape (s.map f) = (shape s).map (Prod.map g id)) (s : List Char) :
    shape.findAll (s.map f) = (shape.findAll s).map g := by
  have hfrom : ∀ skip, shape.findAllFrom skip (s.map f) = (shape.findAllFrom skip s).map g := by
    induction s with
    | nil =>
      intro skip
      cases skip <;> rfl
    | cons c rest ih =>
      intro skip
      cases skip with
      | zero =>
        have hhead := h (c :: rest)
        rw [List.map_cons] at hhead ⊢
        rw [findAllFrom, findAllFrom, hhead]
        cases shape (c :: rest) with
        | none => exact ih 0
        | some found => exact congrArg (g found.1 :: ·) (ih (found.2 - 1))
      | succ skip => exact ih skip
  exact hfrom 0

theorem upTo?_map (f : Char → Char) (close : Char) (hclose : ∀ c, f c = close ↔ c = close)
    (s : List Char) : upTo? close (s.map f) =
      (upTo? close s).map (Prod.map (List.map f) (List.map f)) := by
  induction s with
  | nil => rfl
  | cons c rest ih =>
    rw [List.map_cons, upTo?, upTo?, ih]
    simp only [hclose]
    split
    · rfl
    · cases upTo? close rest <;> rfl

namespace KeepsMarkup

variable {f : Char → Char} (hf : KeepsMarkup f) (name : List Char) (hname : IsName name)

include hf

theorem endsWord_map (s : List Char) : Text.endsWord (s.map f) = Text.endsWord s := by
  cases s with
  | nil => rfl
  | cons c rest => rw [List.map_cons, Text.endsWord, Text.endsWord, hf.isWordChar]

include hname

theorem afterName?_map (s : List Char) :
    afterName? name (s.map f) = (afterName? name s).map (List.map f) := by
  induction name generalizing s with
  | nil => cases s <;> rfl
  | cons letter name ih =>
    have hletter := hname letter (List.mem_cons_self ..)
    have hrest : IsName name := fun c hc => hname c (List.mem_cons_of_mem letter hc)
    cases s with
    | nil => rfl
    | cons c rest =>
      rw [List.map_cons, afterName?, afterName?, hf.isLetter letter c hletter, ih hrest]
      split <;> rfl

theorem afterTagName?_map (s : List Char) :
    afterTagName? name (s.map f) = (afterTagName? name s).map (List.map f) := by
  cases s with
  | nil => rfl
  | cons c rest =>
    by_cases hc : c = '<'
    · subst hc
      have hopen : f '<' = '<' := (hf.opens '<').mpr rfl
      rw [List.map_cons, hopen, afterTagName?, afterTagName?, hf.afterName?_map name hname]
      cases afterName? name rest with
      | none => rfl
      | some rest =>
        simp only [Option.map_some, hf.endsWord_map]
        split <;> rfl
    · have hnone : ∀ (d : Char) (rest : List Char), d ≠ '<' →
          afterTagName? name (d :: rest) = none := by
        intro d rest hd
        unfold afterTagName?
        split
        · rename_i heq
          exact absurd (List.cons.inj heq).1 hd
        · rfl
      rw [List.map_cons, hnone c rest hc, hnone _ _ (mt (hf.opens c).mp hc), Option.map_none]

theorem tagStart_map (s : List Char) :
    tagStart name (s.map f) = (tagStart name s).map (Prod.map id id) := by
  rw [tagStart, tagStart, hf.afterTagName?_map name hname]
  cases afterTagName? name s <;> rfl

theorem openingTag_map (s : List Char) :
    openingTag name (s.map f) = (openingTag name s).map (Prod.map (List.map f) id) := by
  rw [openingTag, openingTag, hf.afterTagName?_map name hname]
  cases afterTagName? name s with
  | none => rfl
  | some rest =>
    simp only [Option.map_some, upTo?_map f '>' hf.closes]
    cases upTo? '>' rest with
    | none => rfl
    | some found =>
      simp only [Option.map_some, Prod.map, List.length_map, List.map_take, id_eq]

/-- The tags of a changed page are the tags of the page, changed. -/
theorem findAll_openingTag_map (s : List Char) : (openingTag name).findAll (s.map f) =
    ((openingTag name).findAll s).map (List.map f) :=
  (openingTag name).findAll_map f _ (hf.openingTag_map name hname) s

theorem length_findAll_tagStart_map (s : List Char) :
    ((tagStart name).findAll (s.map f)).length = ((tagStart name).findAll s).length := by
  rw [(tagStart name).findAll_map f id (hf.tagStart_map name hname), List.length_map]

end KeepsMarkup

end Crawlability.Page
