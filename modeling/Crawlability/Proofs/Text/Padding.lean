import Crawlability.Proofs.Text.Trimming

/-!
What a reader that trims its items and picks some of them does not see: blanks around an item, and
items between the others that it would not pick. Padded items give the same results in the same
order, however many idle ones stand between them.
-/
namespace Crawlability.Text

/-- The second text is the first one with blanks at its ends. -/
def IsPadded (s t : List Char) : Prop :=
  ∃ before after, t = before ++ s ++ after ∧ (∀ c ∈ before, isBlank c = true) ∧
    ∀ c ∈ after, isBlank c = true

theorem trimStart_append_of_blank (before s : List Char) (h : ∀ c ∈ before, isBlank c = true) :
    trimStart (before ++ s) = trimStart s :=
  List.dropWhile_append_of_pos h

theorem trimEnd_append_of_blank (s after : List Char) (h : ∀ c ∈ after, isBlank c = true) :
    trimEnd (s ++ after) = trimEnd s := by
  have hreversed : ∀ c ∈ after.reverse, isBlank c = true :=
    fun c hc => h c (List.mem_reverse.mp hc)
  rw [trimEnd, trimEnd, List.reverse_append, List.dropWhile_append_of_pos hreversed]

/-- Padding is what trimming takes away. -/
theorem trimChars_of_isPadded (s t : List Char) (h : IsPadded s t) :
    trimChars t = trimChars s := by
  obtain ⟨before, after, rfl, hbefore, hafter⟩ := h
  calc
    trimChars (before ++ s ++ after) = trimChars (before ++ s) := by
      rw [← trimChars_trimEnd, trimEnd_append_of_blank _ after hafter, trimChars_trimEnd]
    _ = trimChars s := by
      rw [← trimChars_trimStart, trimStart_append_of_blank before s hbefore, trimChars_trimStart]

/-- Padding, said of strings. -/
def Pads (s t : String) : Prop := IsPadded s.toList t.toList

theorem trim_of_pads (s t : String) (h : Pads s t) : trim t = trim s := by
  rw [trim, trimChars_of_isPadded s.toList t.toList h, trim]

/-- Trimming at the end leaves the first character that stays. -/
theorem head?_trimChars (s : List Char) : (trimChars s).head? = (trimStart s).head? := by
  rcases all_blank_or_split s with h | ⟨a, c, b, rfl, hc⟩
  · have hnil : trimStart s = [] := List.dropWhile_eq_nil_iff.mpr h
    rw [trimChars_of_all_blank s h, hnil]
  · rw [trimChars_append_cons a c b hc, trimStart_append_cons a c b hc]
    cases trimStart a <;> rfl

/-- The second list is the first one with its items exchanged for `same` ones and with `idle` items
put anywhere between them. -/
inductive Interspersed {α : Type} (same : α → α → Prop) (idle : α → Prop) :
    List α → List α → Prop
  | nil : Interspersed same idle [] []
  | keep (a b : α) (as bs : List α) (h : same a b) (hrest : Interspersed same idle as bs) :
    Interspersed same idle (a :: as) (b :: bs)
  | insert (b : α) (as bs : List α) (h : idle b) (hrest : Interspersed same idle as bs) :
    Interspersed same idle as (b :: bs)

/-- What reads the same of `same` items, and nothing of idle ones, reads the same of both lists. -/
theorem Interspersed.filterMap_eq {α β : Type} (same : α → α → Prop) (idle : α → Prop)
    (f : α → Option β) (hsame : ∀ a b, same a b → f b = f a) (hidle : ∀ b, idle b → f b = none)
    (as bs : List α) (h : Interspersed same idle as bs) : bs.filterMap f = as.filterMap f := by
  induction h with
  | nil => rfl
  | keep a b as bs h hrest ih => rw [List.filterMap_cons, List.filterMap_cons, hsame a b h, ih]
  | insert b as bs h hrest ih => rw [List.filterMap_cons_none (hidle b h), ih]

end Crawlability.Text
