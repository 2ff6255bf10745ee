/-!
The lines of a text that line feeds divide. Texts put together line by line have the lines of their
parts, and a part shows more than one line exactly if a line feed is in it.
-/
namespace Crawlability.Text

/-- What stands between the line feeds of a text; behind the last one there may be nothing. -/
def lines (s : List Char) : List (List Char) := s.splitOnP (· == '\n')

/-- The text has no line feed. -/
def IsOneLine (s : String) : Prop := '\n' ∉ s.toList

@[simp] theorem isOneLine_append (s t : String) :
    IsOneLine (s ++ t) ↔ IsOneLine s ∧ IsOneLine t := by
  simp [IsOneLine, not_or]

/-- For texts that are written out, whose characters can be looked through one by one. -/
theorem isOneLine_ofList (s : List Char) (h : s.all (· != '\n') = true) :
    IsOneLine (.ofList s) := by
  rw [IsOneLine, String.toList_ofList]
  intro hmem
  have hne := List.all_eq_true.mp h '\n' hmem
  simp at hne

/-- A line feed divides the lines before it from those behind it. -/
theorem lines_append_cons (s t : List Char) : lines (s ++ '\n' :: t) = lines s ++ lines t :=
  List.splitOnP_append_cons s t rfl

theorem lines_eq_singleton (s : List Char) (h : '\n' ∉ s) : lines s = [s] := by
  apply List.splitOnP_eq_singleton
  intro c hc
  have hne : c ≠ '\n' := fun heq => h (heq ▸ hc)
  simpa using hne

theorem length_lines (s : List Char) : (lines s).length = s.count '\n' + 1 := by
  by_cases h : '\n' ∈ s
  · obtain ⟨before, after, rfl, hbefore⟩ := List.eq_append_cons_of_mem h
    have ih := length_lines after
    rw [lines_append_cons, lines_eq_singleton before hbefore, List.length_append, ih,
      List.count_append, List.count_eq_zero_of_not_mem hbefore, List.count_cons_self]
    simp
    omega
  · rw [lines_eq_singleton s h, List.count_eq_zero_of_not_mem h]
    rfl
termination_by s.length

/-- Texts joined by line feeds have the lines of the single texts. -/
theorem lines_intercalate (texts : List (List Char)) (hne : texts ≠ []) :
    lines (['\n'].intercalate texts) = texts.flatMap lines := by
  induction texts with
  | nil => exact absurd rfl hne
  | cons text rest ih =>
    cases rest with
    | nil => simp
    | cons next rest =>
      rw [List.intercalate_cons_cons, List.append_assoc, List.singleton_append, lines_append_cons,
        ih (List.cons_ne_nil _ _)]
      rfl

/-- Every line feed makes one line more than there are texts. -/
theorem length_flatMap_lines (texts : List (List Char)) :
    (texts.flatMap lines).length = texts.length + texts.flatten.count '\n' := by
  induction texts with
  | nil => rfl
  | cons text rest ih =>
    rw [List.flatMap_cons, List.length_append, ih, length_lines, List.length_cons,
      List.flatten_cons, List.count_append]
    omega

/-- There are as many lines as texts exactly if each text is one line. -/
theorem length_flatMap_lines_eq_iff (texts : List (List Char)) :
    (texts.flatMap lines).length = texts.length ↔ ∀ s ∈ texts, '\n' ∉ s := by
  rw [length_flatMap_lines, Nat.add_eq_left, List.count_eq_zero]
  simp [List.mem_flatten]

theorem flatMap_lines_eq_self (texts : List (List Char)) (h : ∀ s ∈ texts, '\n' ∉ s) :
    texts.flatMap lines = texts := by
  induction texts with
  | nil => rfl
  | cons text rest ih =>
    have htext : '\n' ∉ text := h text (List.mem_cons_self ..)
    have hrest := ih (fun s hs => h s (List.mem_cons_of_mem text hs))
    rw [List.flatMap_cons, lines_eq_singleton text htext, hrest, List.singleton_append]

end Crawlability.Text
