import Crawlability.Robots.Document
import Crawlability.Proofs.Text.Trimming

/-!
What a line of a robots file says, as a relation. A line is a field and a value when it has a colon
and is no comment; the first colon divides it and both sides are trimmed. Three fields mean
something, in any case of their letters. The reader of lines finds exactly what the relation holds
of, so a line says one thing at most. The lines of a text are told by a relation as well, and so are
the entries that a text says in its lines.
-/
namespace Crawlability.Robots

/-- The line is no comment, and its first colon stands between the field and the value. -/
def IsField (line field value : List Char) : Prop :=
  ∃ a b, line = a ++ ':' :: b ∧ ':' ∉ a ∧ (Text.trimChars line).head? ≠ some '#' ∧
    field = Text.trimChars a ∧ value = Text.trimChars b

/-- A line that says something is recognised: a field of known name, in any case, with its value.
The names of agents are lowered and paths are taken as they stand. -/
inductive Says (line : List Char) : Entry → Prop
  | agent (field value : List Char) (h : IsField line field value)
      (hname : String.ofList (Text.lowercaseChars field) = "user-agent") :
      Says line (.agent (.ofList (Text.lowercaseChars value)))
  | allow (field value : List Char) (h : IsField line field value)
      (hname : String.ofList (Text.lowercaseChars field) = "allow") :
      Says line (.rule ⟨.allow, .ofList value⟩)
  | disallow (field value : List Char) (h : IsField line field value)
      (hname : String.ofList (Text.lowercaseChars field) = "disallow") :
      Says line (.rule ⟨.disallow, .ofList value⟩)

theorem isBlank_colon : Text.isBlank ':' = false := by decide

namespace Entry

theorem splitField?_eq_none (line : List Char) (h : ':' ∉ line) : splitField? line = none := by
  have hall : line.dropWhile (· != ':') = [] := by
    apply List.dropWhile_eq_nil_iff.mpr
    intro x hx
    simp only [bne_iff_ne, ne_eq]
    rintro rfl
    exact h hx
  simp [splitField?, hall]

theorem splitField?_append_cons (a b : List Char) (ha : ':' ∉ a) :
    splitField? (a ++ ':' :: b) = some (Text.trimChars a, Text.trimChars b) := by
  have hne : ∀ x ∈ a, (x != ':') = true := by
    intro x hx
    simp only [bne_iff_ne, ne_eq]
    rintro rfl
    exact ha hx
  have hdrop : (a ++ ':' :: b).dropWhile (· != ':') = ':' :: b := by
    rw [List.dropWhile_append_of_pos hne]
    rfl
  have htake : (a ++ ':' :: b).takeWhile (· != ':') = a := by
    rw [List.takeWhile_append_of_pos hne]
    simp
  simp [splitField?, hdrop, htake]

/-- Trimming the whole line first changes neither side of its first colon. -/
theorem splitField?_trimChars (a b : List Char) (ha : ':' ∉ a) :
    splitField? (Text.trimChars (a ++ ':' :: b)) = some (Text.trimChars a, Text.trimChars b) := by
  have hstart : ':' ∉ Text.trimStart a := by
    intro hmem
    exact ha ((List.dropWhile_suffix Text.isBlank).subset hmem)
  rw [Text.trimChars_append_cons a ':' b isBlank_colon, splitField?_append_cons _ _ hstart,
    Text.trimChars_trimStart, Text.trimChars_trimEnd]

/-- The first colon of a trimmed line is the first colon of the line. -/
theorem isField_iff (line field value : List Char) : IsField line field value ↔
    (Text.trimChars line).head? ≠ some '#' ∧
      splitField? (Text.trimChars line) = some (field, value) := by
  constructor
  · rintro ⟨a, b, rfl, ha, hhead, rfl, rfl⟩
    exact ⟨hhead, splitField?_trimChars a b ha⟩
  · rintro ⟨hhead, hsplit⟩
    -- A line without a colon has none when trimmed either, so it cannot be divided.
    by_cases hcolon : ':' ∈ line
    · obtain ⟨a, b, rfl, ha⟩ := List.eq_append_cons_of_mem hcolon
      rw [splitField?_trimChars a b ha] at hsplit
      obtain ⟨hfield, hvalue⟩ := Prod.mk.inj (Option.some.inj hsplit)
      exact ⟨a, b, rfl, ha, hhead, hfield.symm, hvalue.symm⟩
    · have htrim : ':' ∉ Text.trimChars line :=
        fun h => hcolon (Text.mem_of_mem_trimChars line ':' h)
      rw [splitField?_eq_none _ htrim] at hsplit
      cases hsplit

theorem ofLine?_of_isField (line field value : List Char) (h : IsField line field value) :
    ofLine? line =
      if String.ofList (Text.lowercaseChars field) = "user-agent" then
        some (.agent (.ofList (Text.lowercaseChars value)))
      else if String.ofList (Text.lowercaseChars field) = "allow" then
        some (.rule ⟨.allow, .ofList value⟩)
      else if String.ofList (Text.lowercaseChars field) = "disallow" then
        some (.rule ⟨.disallow, .ofList value⟩)
      else none := by
  obtain ⟨hhead, hsplit⟩ := (isField_iff line field value).mp h
  simp [ofLine?, hhead, hsplit]

/-- A line without a field says nothing. -/
theorem exists_isField_of_ofLine? (line : List Char) (e : Entry) (h : ofLine? line = some e) :
    ∃ field value, IsField line field value := by
  dsimp only [ofLine?] at h
  split at h
  · cases h
  · rename_i hhead
    split at h
    · cases h
    · rename_i field value hsplit
      exact ⟨field, value, (isField_iff line field value).mpr ⟨by simpa using hhead, hsplit⟩⟩

theorem ofLine?_eq_some_iff (line : List Char) (e : Entry) :
    ofLine? line = some e ↔ Says line e := by
  constructor
  · intro h
    obtain ⟨field, value, hfield⟩ := exists_isField_of_ofLine? line e h
    rw [ofLine?_of_isField line field value hfield] at h
    split at h
    · rename_i hname
      rw [← Option.some.inj h]
      exact Says.agent field value hfield hname
    · split at h
      · rename_i hname
        rw [← Option.some.inj h]
        exact Says.allow field value hfield hname
      · split at h
        · rename_i hname
          rw [← Option.some.inj h]
          exact Says.disallow field value hfield hname
        · cases h
  · intro h
    cases h with
    | agent field value hfield hname =>
      rw [ofLine?_of_isField line field value hfield, hname]
      rfl
    | allow field value hfield hname =>
      rw [ofLine?_of_isField line field value hfield, hname]
      rfl
    | disallow field value hfield hname =>
      rw [ofLine?_of_isField line field value hfield, hname]
      rfl

end Entry

/-- The entries are those that the lines say, one after the other. -/
inductive Reads : List (List Char) → List Entry → Prop
  | nil : Reads [] []
  | said (line : List Char) (e : Entry) (lines : List (List Char)) (es : List Entry)
      (h : Says line e) (hrest : Reads lines es) : Reads (line :: lines) (e :: es)
  | silent (line : List Char) (lines : List (List Char)) (es : List Entry)
      (h : ∀ e, ¬ Says line e) (hrest : Reads lines es) : Reads (line :: lines) es

theorem reads_filterMap_ofLine? (lines : List (List Char)) :
    Reads lines (lines.filterMap Entry.ofLine?) := by
  induction lines with
  | nil => exact Reads.nil
  | cons line rest ih =>
    cases h : Entry.ofLine? line with
    | none =>
      rw [List.filterMap_cons_none h]
      refine Reads.silent line rest _ ?_ ih
      intro e hsays
      rw [(Entry.ofLine?_eq_some_iff line e).mpr hsays] at h
      cases h
    | some e =>
      rw [List.filterMap_cons_some h]
      exact Reads.said line e rest _ ((Entry.ofLine?_eq_some_iff line e).mp h) ih

theorem reads_iff (lines : List (List Char)) (es : List Entry) :
    Reads lines es ↔ lines.filterMap Entry.ofLine? = es := by
  constructor
  · intro h
    induction h with
    | nil => rfl
    | said line e lines es h hrest ih =>
      rw [List.filterMap_cons_some ((Entry.ofLine?_eq_some_iff line e).mpr h), ih]
    | silent line lines es h hrest ih =>
      have hnone : Entry.ofLine? line = none := by
        rw [Option.eq_none_iff_forall_ne_some]
        intro e he
        exact h e ((Entry.ofLine?_eq_some_iff line e).mp he)
      rw [List.filterMap_cons_none hnone, ih]
  · rintro rfl
    exact reads_filterMap_ofLine? lines

/-- The text in lines: each carriage return and each line feed ends one. -/
inductive HasLines : List Char → List (List Char) → Prop
  | last (line : List Char) (hreturn : '\r' ∉ line) (hfeed : '\n' ∉ line) : HasLines line [line]
  | ended (line rest : List Char) (lines : List (List Char)) (mark : Char)
      (hreturn : '\r' ∉ line) (hfeed : '\n' ∉ line) (hmark : mark = '\r' ∨ mark = '\n')
      (hrest : HasLines rest lines) : HasLines (line ++ mark :: rest) (line :: lines)

/-- The characters that end a line. -/
def isLineEnd (c : Char) : Bool := c == '\r' || c == '\n'

theorem isLineEnd_eq_false_iff (c : Char) : isLineEnd c = false ↔ c ≠ '\r' ∧ c ≠ '\n' := by
  simp [isLineEnd]

theorem isLineEnd_eq_false_of_mem_splitOnP (s : List Char) :
    ∀ line ∈ s.splitOnP isLineEnd, ∀ c ∈ line, isLineEnd c = false := by
  induction s with
  | nil => simp
  | cons d s ih =>
    rw [List.splitOnP_cons_eq_if_modifyHead]
    split
    · intro line hline
      rcases List.mem_cons.mp hline with rfl | hline
      · simp
      · exact ih line hline
    · rename_i hd
      obtain ⟨first, rest, hsplit⟩ := List.exists_cons_of_ne_nil (List.splitOnP_ne_nil isLineEnd s)
      rw [hsplit] at ih ⊢
      intro line hline c hc
      rcases List.mem_cons.mp hline with rfl | hline
      · rcases List.mem_cons.mp hc with rfl | hc
        · simpa using hd
        · exact ih first (List.mem_cons_self ..) c hc
      · exact ih line (List.mem_cons_of_mem first hline) c hc

theorem isLineEnd_eq_false_of_not_mem (line : List Char) (hreturn : '\r' ∉ line)
    (hfeed : '\n' ∉ line) : ∀ c ∈ line, isLineEnd c = false := by
  intro c hc
  rw [isLineEnd_eq_false_iff]
  exact ⟨ne_of_mem_of_not_mem hc hreturn, ne_of_mem_of_not_mem hc hfeed⟩

/-- A character that ends no line belongs to the line that it stands in front of. -/
theorem HasLines.cons (c : Char) (s first : List Char) (rest : List (List Char))
    (hc : isLineEnd c = false) (h : HasLines s (first :: rest)) :
    HasLines (c :: s) ((c :: first) :: rest) := by
  obtain ⟨hreturn, hfeed⟩ := (isLineEnd_eq_false_iff c).mp hc
  cases h with
  | last _ hr hf =>
    exact .last _ (List.not_mem_cons_of_ne_of_not_mem hreturn.symm hr)
      (List.not_mem_cons_of_ne_of_not_mem hfeed.symm hf)
  | ended _ s lines mark hr hf hmark hrest =>
    exact .ended _ s _ mark (List.not_mem_cons_of_ne_of_not_mem hreturn.symm hr)
      (List.not_mem_cons_of_ne_of_not_mem hfeed.symm hf) hmark hrest

theorem hasLines_splitOnP (s : List Char) : HasLines s (s.splitOnP isLineEnd) := by
  induction s with
  | nil => exact .last [] List.not_mem_nil List.not_mem_nil
  | cons c s ih =>
    rw [List.splitOnP_cons_eq_if_modifyHead]
    split
    · rename_i hend
      have hmark : c = '\r' ∨ c = '\n' := by simpa [isLineEnd] using hend
      exact .ended [] s _ c List.not_mem_nil List.not_mem_nil hmark ih
    · rename_i hend
      obtain ⟨first, rest, hsplit⟩ := List.exists_cons_of_ne_nil (List.splitOnP_ne_nil isLineEnd s)
      rw [hsplit] at ih ⊢
      exact ih.cons c s first rest (Bool.not_eq_true _ ▸ hend)

theorem hasLines_iff (s : List Char) (lines : List (List Char)) :
    HasLines s lines ↔ s.splitOnP isLineEnd = lines := by
  constructor
  · intro h
    induction h with
    | last line hreturn hfeed =>
      exact List.splitOnP_eq_singleton (isLineEnd_eq_false_of_not_mem line hreturn hfeed)
    | ended line rest lines mark hreturn hfeed hmark hrest ih =>
      have hend : isLineEnd mark = true := by simpa [isLineEnd] using hmark
      rw [List.splitOnP_append_cons_of_forall_mem
        (isLineEnd_eq_false_of_not_mem line hreturn hfeed) mark hend, ih]
  · rintro rfl
    exact hasLines_splitOnP s

/-- Lines joined by line feeds are split into the same lines. -/
theorem splitOnP_intercalate (lines : List (List Char)) (hne : lines ≠ [])
    (h : ∀ line ∈ lines, ∀ c ∈ line, isLineEnd c = false) :
    (['\n'].intercalate lines).splitOnP isLineEnd = lines := by
  induction lines with
  | nil => exact absurd rfl hne
  | cons line rest ih =>
    have hline := h line (List.mem_cons_self ..)
    cases rest with
    | nil => rw [List.intercalate_singleton, List.splitOnP_eq_singleton hline]
    | cons next rest =>
      rw [List.intercalate_cons_cons, List.append_assoc, List.singleton_append,
        List.splitOnP_append_cons_of_forall_mem hline _ rfl,
        ih (List.cons_ne_nil _ _) (fun l hl => h l (List.mem_cons_of_mem line hl))]

namespace Document

theorem lines_eq (text : String) : lines text = text.toList.splitOnP isLineEnd := rfl

theorem isLineEnd_eq_false_of_mem_lines (text : String) (line : List Char)
    (h : line ∈ lines text) : ∀ c ∈ line, isLineEnd c = false :=
  isLineEnd_eq_false_of_mem_splitOnP text.toList line h

theorem hasLines_iff_lines (text : String) (ls : List (List Char)) :
    HasLines text.toList ls ↔ lines text = ls :=
  hasLines_iff text.toList ls

/-- Texts on one line each, joined by line feeds, are the lines of the result. -/
theorem lines_intercalate (texts : List String) (hne : texts ≠ [])
    (h : ∀ s ∈ texts, ∀ c ∈ s.toList, c ≠ '\r' ∧ c ≠ '\n') :
    lines ("\n".intercalate texts) = texts.map String.toList := by
  rw [lines_eq, String.toList_intercalate]
  apply splitOnP_intercalate
  · simpa using hne
  · intro line hline c hc
    obtain ⟨s, hs, rfl⟩ := List.mem_map.mp hline
    exact (isLineEnd_eq_false_iff c).mpr (h s hs c hc)

theorem mem_entries_iff (text : String) (e : Entry) :
    e ∈ entries text ↔ ∃ line ∈ lines text, Says line e := by
  simp only [entries, List.mem_filterMap, Entry.ofLine?_eq_some_iff]

/-- The text says these entries, line by line. -/
def Tells (text : String) (es : List Entry) : Prop :=
  ∃ ls, HasLines text.toList ls ∧ Reads ls es

theorem tells_iff (text : String) (es : List Entry) : Tells text es ↔ entries text = es := by
  simp only [Tells, hasLines_iff_lines, exists_eq_left', reads_iff, entries]

end Document

end Crawlability.Robots
