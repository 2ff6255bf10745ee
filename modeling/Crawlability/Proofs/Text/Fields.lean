import Crawlability.Text.Blank
import Mathlib.Data.List.Induction
import Mathlib.Data.Nat.Init

/-!
The fields of a text: its stretches without a separator that no wider stretch contains. Cut at any
separator, a text has the fields of the one side and then those of the other. A text that is put
together from fields, with separators between them, has these fields.
-/
namespace Crawlability.Text

variable (isSeparator : Char → Bool)

/-- The field stands in the text, has no separator in it, and reaches at both ends to a separator or
to the end of the text. -/
def IsFieldOf (s field : List Char) : Prop :=
  ∃ a b, s = a ++ field ++ b ∧ field ≠ [] ∧ (∀ c ∈ field, isSeparator c = false) ∧
    (∀ c ∈ a.getLast?, isSeparator c = true) ∧ ∀ c ∈ b.head?, isSeparator c = true

theorem fields_nil : fields isSeparator [] = [] := by simp [fields]

theorem fields_append_cons (a b : List Char) (c : Char) (hc : isSeparator c = true) :
    fields isSeparator (a ++ c :: b) = fields isSeparator a ++ fields isSeparator b := by
  simp [fields, List.splitOnP_append_cons a b hc]

theorem fields_of_no_separator (s : List Char) (hne : s ≠ [])
    (h : ∀ c ∈ s, isSeparator c = false) : fields isSeparator s = [s] := by
  simp [fields, List.splitOnP_eq_singleton h, hne]

theorem fields_append_of_separators (gap rest : List Char)
    (hgap : ∀ c ∈ gap, isSeparator c = true) :
    fields isSeparator (gap ++ rest) = fields isSeparator rest := by
  induction gap with
  | nil => rfl
  | cons c gap ih =>
    have hcut := fields_append_cons isSeparator [] (gap ++ rest) c (hgap c (List.mem_cons_self ..))
    rw [List.cons_append, ← List.nil_append (c :: (gap ++ rest)), hcut, fields_nil,
      List.nil_append, ih fun d hd => hgap d (List.mem_cons_of_mem c hd)]

/-- The text is the words in order, with separators between any two of them. -/
inductive Joined : List (List Char) → List Char → Prop
  | nil : Joined [] []
  | single (word : List Char) : Joined [word] word
  | cons (word gap next : List Char) (words : List (List Char)) (rest : List Char)
      (hgap : gap ≠ []) (hsep : ∀ c ∈ gap, isSeparator c = true)
      (hrest : Joined (next :: words) rest) :
      Joined (word :: next :: words) (word ++ (gap ++ rest))

theorem fields_of_joined (words : List (List Char)) (s : List Char)
    (h : Joined isSeparator words s)
    (hwords : ∀ word ∈ words, word ≠ [] ∧ ∀ c ∈ word, isSeparator c = false) :
    fields isSeparator s = words := by
  induction h with
  | nil => exact fields_nil isSeparator
  | single word =>
    obtain ⟨hne, hword⟩ := hwords word (List.mem_singleton_self word)
    exact fields_of_no_separator isSeparator word hne hword
  | cons word gap next words rest hgap hsep _ ih =>
    obtain ⟨hne, hword⟩ := hwords word (List.mem_cons_self ..)
    obtain ⟨c, gap, rfl⟩ := List.exists_cons_of_ne_nil hgap
    have hc := hsep c (List.mem_cons_self ..)
    rw [List.cons_append, fields_append_cons isSeparator word _ c hc,
      fields_of_no_separator isSeparator word hne hword,
      fields_append_of_separators isSeparator gap rest
        fun d hd => hsep d (List.mem_cons_of_mem c hd),
      ih fun other hother => hwords other (List.mem_cons_of_mem word hother),
      List.singleton_append]

/-- A field of a side is a field of the whole, and so for the other side. -/
theorem IsFieldOf.append_cons (a b field : List Char) (c : Char) (hc : isSeparator c = true)
    (h : IsFieldOf isSeparator a field ∨ IsFieldOf isSeparator b field) :
    IsFieldOf isSeparator (a ++ c :: b) field := by
  rcases h with ⟨x, y, rfl, hne, hfield, hx, hy⟩ | ⟨x, y, rfl, hne, hfield, hx, hy⟩
  · refine ⟨x, y ++ c :: b, by simp, hne, hfield, hx, ?_⟩
    intro d hd
    cases y with
    | nil =>
      obtain rfl : c = d := by simpa using hd
      exact hc
    | cons e y => exact hy d (by simpa using hd)
  · refine ⟨a ++ c :: x, y, by simp, hne, hfield, ?_, hy⟩
    intro d hd
    cases x using List.reverseRecOn with
    | nil =>
      obtain rfl : c = d := by simpa using hd
      exact hc
    | append_singleton x e =>
      rw [← List.cons_append, ← List.append_assoc, List.getLast?_concat] at hd
      apply hx d
      rwa [List.getLast?_concat]

theorem isFieldOf_of_mem_fields (s field : List Char) (h : field ∈ fields isSeparator s) :
    IsFieldOf isSeparator s field := by
  induction hsize : s.length using Nat.strong_induction_on generalizing s with
  | h size ih =>
    subst hsize
    by_cases hsep : ∃ c ∈ s, isSeparator c = true
    · obtain ⟨c, hmem, hc⟩ := hsep
      obtain ⟨a, b, rfl⟩ := List.append_of_mem hmem
      have ha : a.length < (a ++ c :: b).length := by simp
      have hb : b.length < (a ++ c :: b).length := by
        rw [List.length_append, List.length_cons]
        omega
      rw [fields_append_cons isSeparator a b c hc, List.mem_append] at h
      apply IsFieldOf.append_cons isSeparator a b field c hc
      rcases h with h | h
      · exact Or.inl (ih a.length ha a h rfl)
      · exact Or.inr (ih b.length hb b h rfl)
    · have hplain : ∀ c ∈ s, isSeparator c = false := by
        intro c hc
        rw [← Bool.not_eq_true]
        exact fun htrue => hsep ⟨c, hc, htrue⟩
      cases s with
      | nil =>
        rw [fields_nil] at h
        cases h
      | cons c s =>
        rw [fields_of_no_separator isSeparator _ (List.cons_ne_nil c s) hplain,
          List.mem_singleton] at h
        subst h
        exact ⟨[], [], by simp, List.cons_ne_nil c s, hplain, by simp, by simp⟩

theorem mem_fields_append_of_no_separator (field b : List Char) (hne : field ≠ [])
    (hfield : ∀ c ∈ field, isSeparator c = false) (hb : ∀ c ∈ b.head?, isSeparator c = true) :
    field ∈ fields isSeparator (field ++ b) := by
  cases b with
  | nil =>
    rw [List.append_nil, fields_of_no_separator isSeparator field hne hfield]
    exact List.mem_singleton_self field
  | cons c b =>
    rw [fields_append_cons isSeparator field b c (hb c rfl), List.mem_append,
      fields_of_no_separator isSeparator field hne hfield]
    exact Or.inl (List.mem_singleton_self field)

/-- What a text is cut into are its fields. -/
theorem mem_fields_iff (s field : List Char) :
    field ∈ fields isSeparator s ↔ IsFieldOf isSeparator s field := by
  constructor
  · exact isFieldOf_of_mem_fields isSeparator s field
  · rintro ⟨a, b, rfl, hne, hfield, ha, hb⟩
    have hmem := mem_fields_append_of_no_separator isSeparator field b hne hfield hb
    cases a using List.reverseRecOn with
    | nil => simpa using hmem
    | append_singleton a c =>
      have hc : isSeparator c = true := ha c (by simp)
      have hcut : a ++ [c] ++ field ++ b = a ++ c :: (field ++ b) := by simp
      rw [hcut, fields_append_cons isSeparator a _ c hc, List.mem_append]
      exact Or.inr hmem

end Crawlability.Text
