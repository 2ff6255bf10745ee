import Crawlability.Proofs.Robots.Line
import Crawlability.Proofs.Text.LetterCase
import Crawlability.Proofs.Text.Padding
import Mathlib.Logic.Relation

/-!
The ways to write one robots file. A text is a sheet of lines with a line end between any two of
them. What a line says depends on its field up to blanks and ASCII case, and on its value up to
blanks, and also up to ASCII case where the value names an agent. The other ways to write a line,
the choice of the line ends and the lines that say nothing leave no trace in the document.
-/
namespace Crawlability.Robots

namespace Entry

/-- The fields that mean something. -/
def fieldNames : List String := ["user-agent", "allow", "disallow"]

/-- The name of a field as it is compared: without blanks around it and in small letters. -/
def fieldName (a : List Char) : List Char := (Text.trimChars a).map Char.toLower

/-- What a line says with the name of its field and its value. -/
def ofField? (name value : List Char) : Option Entry :=
  if name = "user-agent".toList then some (.agent (.ofList (Text.lowercaseChars value)))
  else if name = "allow".toList then some (.rule ⟨.allow, .ofList value⟩)
  else if name = "disallow".toList then some (.rule ⟨.disallow, .ofList value⟩)
  else none

theorem ofField?_eq_none (name value : List Char) (h : ∀ word ∈ fieldNames, name ≠ word.toList) :
    ofField? name value = none := by
  rw [ofField?, if_neg (h _ (by simp [fieldNames])), if_neg (h _ (by simp [fieldNames])),
    if_neg (h _ (by simp [fieldNames]))]

/-- The field of a line is lowered in full before it is compared, but the names are of plain
letters, so that only the case of ASCII matters. -/
theorem lowercaseChars_eq_iff (field : List Char) (word : String) (hword : word ∈ fieldNames) :
    String.ofList (Text.lowercaseChars field) = word ↔ field.map Char.toLower = word.toList := by
  have hplain : ∀ w ∈ fieldNames, ∀ c ∈ w.toList, Text.IsPlain c := by
    simp [fieldNames, Text.IsPlain]
  rw [← String.toList_inj, String.toList_ofList, Text.lowercaseChars,
    Text.lowercaseFrom_eq_iff false field word.toList (hplain word hword)]

theorem ofLine?_of_comment (line : List Char) (h : (Text.trimChars line).head? = some '#') :
    ofLine? line = none := by
  simp [ofLine?, h]

theorem ofLine?_of_not_mem (line : List Char) (h : ':' ∉ line) : ofLine? line = none := by
  apply Option.eq_none_iff_forall_ne_some.mpr
  intro e he
  obtain ⟨field, value, a, b, rfl, -⟩ := exists_isField_of_ofLine? line e he
  exact h (List.mem_append_right a (List.mem_cons_self ..))

/-- The mark of a comment is part of what would be its field. -/
theorem head?_fieldName (a b : List Char)
    (h : (Text.trimChars (a ++ ':' :: b)).head? = some '#') :
    (fieldName a).head? = some '#' := by
  rw [Text.trimChars_append_cons a ':' b isBlank_colon, List.head?_append] at h
  rw [fieldName, List.head?_map, Text.head?_trimChars]
  cases hstart : (Text.trimStart a).head? with
  | none =>
    rw [hstart, Option.none_or, List.head?_cons] at h
    cases h
  | some c =>
    rw [hstart] at h
    obtain rfl : c = '#' := Option.some.inj h
    rfl

/-- What a line with a colon says. That it is no comment needs no test of its own, since no name of
a field begins with the mark. -/
theorem ofLine?_append_cons (a b : List Char) (ha : ':' ∉ a) :
    ofLine? (a ++ ':' :: b) = ofField? (fieldName a) (Text.trimChars b) := by
  by_cases hhead : (Text.trimChars (a ++ ':' :: b)).head? = some '#'
  · have hletter : ∀ word ∈ fieldNames, word.toList.head? ≠ some '#' := by simp [fieldNames]
    have hother : ∀ word ∈ fieldNames, fieldName a ≠ word.toList := by
      intro word hword hname
      exact hletter word hword (hname ▸ head?_fieldName a b hhead)
    rw [ofLine?_of_comment _ hhead, ofField?_eq_none _ _ hother]
  · have hfield : IsField (a ++ ':' :: b) (Text.trimChars a) (Text.trimChars b) :=
      ⟨a, b, rfl, ha, hhead, rfl, rfl⟩
    rw [ofLine?_of_isField _ _ _ hfield]
    simp only [lowercaseChars_eq_iff _ "user-agent" (by simp [fieldNames]),
      lowercaseChars_eq_iff _ "allow" (by simp [fieldNames]),
      lowercaseChars_eq_iff _ "disallow" (by simp [fieldNames])]
    rfl

end Entry

theorem colon_not_mem_of_blank (s : List Char) (h : ∀ c ∈ s, Text.isBlank c = true) : ':' ∉ s := by
  intro hmem
  have hcolon := h ':' hmem
  rw [isBlank_colon] at hcolon
  cases hcolon

theorem colon_mem_map_toLower (s : List Char) : ':' ∈ s.map Char.toLower ↔ ':' ∈ s := by
  have hsame : ∀ c : Char, c.toLower = ':' ↔ c = ':' := by
    intro c
    rw [← beq_iff_eq, Text.toLower_beq ':' (by decide), beq_iff_eq]
  simp only [List.mem_map, hsame, exists_eq_right]

/-- Texts that differ in the case of ASCII letters only are trimmed alike. -/
theorem map_toLower_trimChars (s t : List Char) (h : t.map Char.toLower = s.map Char.toLower) :
    (Text.trimChars t).map Char.toLower = (Text.trimChars s).map Char.toLower := by
  rw [← Text.trimChars_map Char.toLower Text.isBlank_toLower, h,
    Text.trimChars_map Char.toLower Text.isBlank_toLower]

/-! ## The lines -/

/-- The second line is the first one with one thing written in another way: blanks are put at its
ends or around its first colon, or letters change their case in its field or in the name of an
agent. -/
inductive LineEdit : List Char → List Char → Prop
  | ends (line padded : List Char) (h : Text.IsPadded line padded) : LineEdit line padded
  | colon (a b before after : List Char) (ha : ':' ∉ a)
      (hbefore : ∀ c ∈ before, Text.isBlank c = true)
      (hafter : ∀ c ∈ after, Text.isBlank c = true) :
      LineEdit (a ++ ':' :: b) (a ++ before ++ ':' :: (after ++ b))
  | field (a recased b : List Char) (ha : ':' ∉ a)
      (h : recased.map Char.toLower = a.map Char.toLower) :
      LineEdit (a ++ ':' :: b) (recased ++ ':' :: b)
  | agent (a b recased : List Char) (ha : ':' ∉ a)
      (hname : Entry.fieldName a = "user-agent".toList)
      (h : recased.map Char.toLower = b.map Char.toLower) :
      LineEdit (a ++ ':' :: b) (a ++ ':' :: recased)

/-- The lines that may be put in: blank ones, comments, lines without a colon, and fields of any
other name. -/
inductive IsIdle : List Char → Prop
  | blank (line : List Char) (h : ∀ c ∈ line, Text.isBlank c = true) : IsIdle line
  | comment (before rest : List Char) (h : ∀ c ∈ before, Text.isBlank c = true) :
      IsIdle (before ++ '#' :: rest)
  | plain (line : List Char) (h : ':' ∉ line) : IsIdle line
  | other (a b : List Char) (ha : ':' ∉ a)
      (hname : ∀ word ∈ Entry.fieldNames, Entry.fieldName a ≠ word.toList) :
      IsIdle (a ++ ':' :: b)

theorem LineEdit.ofLine?_eq (line line' : List Char) (h : LineEdit line line') :
    Entry.ofLine? line' = Entry.ofLine? line := by
  cases h with
  | ends _ _ h => rw [Entry.ofLine?, Entry.ofLine?, Text.trimChars_of_isPadded _ _ h]
  | colon a b before after ha hbefore hafter =>
    have hcolon : ':' ∉ a ++ before := by
      rw [List.mem_append, not_or]
      exact ⟨ha, colon_not_mem_of_blank before hbefore⟩
    have hfield : Text.trimChars (a ++ before) = Text.trimChars a :=
      Text.trimChars_of_isPadded _ _ ⟨[], before, rfl, by simp, hbefore⟩
    have hvalue : Text.trimChars (after ++ b) = Text.trimChars b :=
      Text.trimChars_of_isPadded _ _ ⟨after, [], by simp, hafter, by simp⟩
    rw [Entry.ofLine?_append_cons _ _ hcolon, Entry.ofLine?_append_cons _ _ ha, hvalue,
      Entry.fieldName, Entry.fieldName, hfield]
  | field a recased b ha hcase =>
    have hcolon : ':' ∉ recased := by
      rwa [← colon_mem_map_toLower, hcase, colon_mem_map_toLower]
    have hname : Entry.fieldName recased = Entry.fieldName a :=
      map_toLower_trimChars a recased hcase
    rw [Entry.ofLine?_append_cons _ _ hcolon, Entry.ofLine?_append_cons _ _ ha, hname]
  | agent a b recased ha hname hcase =>
    have hvalue : Text.lowercaseChars (Text.trimChars recased) =
        Text.lowercaseChars (Text.trimChars b) := by
      rw [← Text.lowercaseChars_map_toLower, map_toLower_trimChars b recased hcase,
        Text.lowercaseChars_map_toLower]
    rw [Entry.ofLine?_append_cons _ _ ha, Entry.ofLine?_append_cons _ _ ha, hname, Entry.ofField?,
      Entry.ofField?, if_pos rfl, if_pos rfl, hvalue]

theorem IsIdle.ofLine?_eq_none (line : List Char) (h : IsIdle line) :
    Entry.ofLine? line = none := by
  cases h with
  | blank _ h => exact Entry.ofLine?_of_not_mem line (colon_not_mem_of_blank line h)
  | comment before rest h =>
    apply Entry.ofLine?_of_comment
    rw [Text.head?_trimChars, Text.trimStart_append_of_blank before _ h]
    rfl
  | plain _ h => exact Entry.ofLine?_of_not_mem line h
  | other a b ha hname =>
    rw [Entry.ofLine?_append_cons a b ha, Entry.ofField?_eq_none _ _ hname]

/-- A line may be edited over and over. -/
theorem ofLine?_of_edits (line line' : List Char) (h : Relation.ReflTransGen LineEdit line line') :
    Entry.ofLine? line' = Entry.ofLine? line := by
  induction h with
  | refl => rfl
  | tail _ hlast ih => rw [hlast.ofLine?_eq, ih]

/-! ## The sheet -/

inductive LineEnd where
  | lf
  | cr
  | crlf
deriving Repr, DecidableEq

def LineEnd.chars : LineEnd → List Char
  | lf => ['\n']
  | cr => ['\r']
  | crlf => ['\r', '\n']

/-- A line end closes the line before it. Of a carriage return with a line feed each closes one, but
the line between the two is empty and says nothing. -/
theorem LineEnd.filterMap_splitOnP (lineEnd : LineEnd) (line rest : List Char)
    (h : ∀ c ∈ line, isLineEnd c = false) :
    ((line ++ (lineEnd.chars ++ rest)).splitOnP isLineEnd).filterMap Entry.ofLine? =
      (line :: rest.splitOnP isLineEnd).filterMap Entry.ofLine? := by
  cases lineEnd with
  | lf =>
    have hsplit := List.splitOnP_append_cons_of_forall_mem h '\n' rfl rest
    rw [chars, List.singleton_append, hsplit]
  | cr =>
    have hsplit := List.splitOnP_append_cons_of_forall_mem h '\r' rfl rest
    rw [chars, List.singleton_append, hsplit]
  | crlf =>
    have hsplit := List.splitOnP_append_cons_of_forall_mem h '\r' rfl ('\n' :: rest)
    have hempty : ('\n' :: rest).splitOnP isLineEnd = [] :: rest.splitOnP isLineEnd :=
      List.splitOnP_append_cons_of_forall_mem (List.forall_mem_nil _) '\n' rfl rest
    have hnone : Entry.ofLine? [] = none := Entry.ofLine?_of_not_mem [] (by simp)
    rw [chars, List.cons_append, List.singleton_append, hsplit, hempty]
    simp only [List.filterMap_cons, hnone]

/-- The characters of lines, each with the line end before it. -/
def tailChars (others : List (LineEnd × List Char)) : List Char :=
  others.flatMap fun (lineEnd, line) => lineEnd.chars ++ line

theorem tailChars_cons (lineEnd : LineEnd) (line : List Char)
    (others : List (LineEnd × List Char)) :
    tailChars ((lineEnd, line) :: others) = lineEnd.chars ++ (line ++ tailChars others) := by
  rw [tailChars, List.flatMap_cons, List.append_assoc, tailChars]

/-- A text in lines: the first one, and the others behind the line ends before them. -/
structure Sheet where
  first : List Char
  others : List (LineEnd × List Char)
  oneLine : ∀ line ∈ first :: others.map Prod.snd, ∀ c ∈ line, isLineEnd c = false

namespace Sheet

def lines (s : Sheet) : List (List Char) := s.first :: s.others.map Prod.snd

def chars (s : Sheet) : List Char := s.first ++ tailChars s.others

def text (s : Sheet) : String := .ofList s.chars

/-- No carriage return that has a line feed behind it is taken for a line end of its own. -/
def IsWhole (s : Sheet) : Prop := s.others.IsChain fun p q => p = (.cr, []) → q.1 ≠ .lf

theorem filterMap_splitOnP (first : List Char) (others : List (LineEnd × List Char))
    (h : ∀ line ∈ first :: others.map Prod.snd, ∀ c ∈ line, isLineEnd c = false) :
    ((first ++ tailChars others).splitOnP isLineEnd).filterMap Entry.ofLine? =
      (first :: others.map Prod.snd).filterMap Entry.ofLine? := by
  have hfirst := h first (List.mem_cons_self ..)
  induction others generalizing first with
  | nil =>
    rw [tailChars, List.flatMap_nil, List.append_nil, List.splitOnP_eq_singleton hfirst]
    rfl
  | cons next others ih =>
    obtain ⟨lineEnd, line⟩ := next
    have hothers : ∀ l ∈ line :: others.map Prod.snd, ∀ c ∈ l, isLineEnd c = false :=
      fun l hl => h l (List.mem_cons_of_mem first hl)
    have hrest := ih line hothers (hothers line (List.mem_cons_self ..))
    rw [tailChars_cons, lineEnd.filterMap_splitOnP first _ hfirst, List.filterMap_cons, hrest,
      List.map_cons, List.filterMap_cons (a := first)]

/-- The entries of a text are what its lines say, whatever ends them. -/
theorem entries_text (s : Sheet) : Document.entries s.text = s.lines.filterMap Entry.ofLine? := by
  rw [Document.entries, Document.lines_eq, text, String.toList_ofList, chars,
    lines, filterMap_splitOnP s.first s.others s.oneLine]

/-- The sheet behind an empty line and a line end. -/
def behind (s : Sheet) (lineEnd : LineEnd) : Sheet where
  first := []
  others := (lineEnd, s.first) :: s.others
  oneLine := List.forall_mem_cons.mpr ⟨List.forall_mem_nil _, s.oneLine⟩

theorem chars_behind (s : Sheet) (lineEnd : LineEnd) :
    (s.behind lineEnd).chars = lineEnd.chars ++ s.chars := by
  rw [chars, behind, tailChars_cons, List.nil_append, chars]

theorem isWhole_behind (s : Sheet) (lineEnd : LineEnd) (h : s.IsWhole)
    (hapart : lineEnd = .cr → s.first = [] → ∀ q ∈ s.others.head?, q.1 ≠ .lf) :
    (s.behind lineEnd).IsWhole := by
  refine List.isChain_cons.mpr ⟨?_, h⟩
  intro q hq hp
  obtain ⟨rfl, hfirst⟩ := Prod.mk.inj hp
  exact hapart rfl hfirst q hq

/-- Every text is the text of some sheet. -/
theorem exists_isWhole_chars_eq (cs : List Char) : ∃ s : Sheet, s.IsWhole ∧ s.chars = cs := by
  induction cs with
  | nil => exact ⟨⟨[], [], by simp⟩, List.isChain_nil, rfl⟩
  | cons c cs ih =>
    obtain ⟨s, hwhole, rfl⟩ := ih
    by_cases hend : isLineEnd c = false
    · have honeLine : ∀ line ∈ (c :: s.first) :: s.others.map Prod.snd,
          ∀ d ∈ line, isLineEnd d = false := by
        have h := s.oneLine
        rw [List.forall_mem_cons] at h ⊢
        exact ⟨List.forall_mem_cons.mpr ⟨hend, h.1⟩, h.2⟩
      exact ⟨⟨c :: s.first, s.others, honeLine⟩, hwhole, rfl⟩
    · rw [isLineEnd_eq_false_iff, not_and_or, not_not, not_not] at hend
      rcases hend with rfl | rfl
      · -- A line feed that comes next is joined to the carriage return.
        by_cases hnext : s.first = [] ∧ ∃ line others, s.others = (.lf, line) :: others
        · obtain ⟨first, others, honeLine⟩ := s
          obtain ⟨rfl, line, others, rfl⟩ := hnext
          let t : Sheet := ⟨line, others, (List.forall_mem_cons.mp honeLine).2⟩
          exact ⟨t.behind .crlf, t.isWhole_behind .crlf hwhole.tail (by nofun), rfl⟩
        · refine ⟨s.behind .cr, s.isWhole_behind .cr hwhole ?_, s.chars_behind .cr⟩
          rintro - hfirst ⟨lineEnd, line⟩ hq rfl
          obtain ⟨others, hothers⟩ := List.head?_eq_some_iff.mp hq
          exact hnext ⟨hfirst, line, others, hothers⟩
      · exact ⟨s.behind .lf, s.isWhole_behind .lf hwhole (by nofun), s.chars_behind .lf⟩

end Sheet

namespace Document

theorem parse_eq_of_interspersed (s s' : Sheet)
    (h : Text.Interspersed (Relation.ReflTransGen LineEdit) IsIdle s.lines s'.lines) :
    parse s'.text = parse s.text := by
  have hlines : s'.lines.filterMap Entry.ofLine? = s.lines.filterMap Entry.ofLine? :=
    h.filterMap_eq _ _ Entry.ofLine? ofLine?_of_edits IsIdle.ofLine?_eq_none
  rw [parse, parse, s.entries_text, s'.entries_text, hlines]

/-- A text is read as a sheet with every carriage return and line feed taken together, and as any
other sheet of that text. Its line ends may all be changed, its lines edited, and idle lines put
anywhere between them: the document is the same. -/
theorem parse_respelled (text : String) :
    (∃ s : Sheet, s.IsWhole ∧ s.text = text) ∧
      ∀ s s' : Sheet, s.text = text →
        Text.Interspersed (Relation.ReflTransGen LineEdit) IsIdle s.lines s'.lines →
        parse s'.text = parse text := by
  constructor
  · obtain ⟨s, hwhole, hchars⟩ := Sheet.exists_isWhole_chars_eq text.toList
    exact ⟨s, hwhole, by rw [Sheet.text, hchars, String.ofList_toList]⟩
  · rintro s s' rfl h
    exact parse_eq_of_interspersed s s' h

theorem parse_respelled_of_two_lines : ∃ s s' : Sheet,
    s.text = "User-agent: GPTBot\nDisallow: /a" ∧
    s'.text = "\r  USER-AGENT\t: gptbot\r\n# Allow: /\nSitemap: /b\rDisallow: /a\u3000" ∧
    Text.Interspersed (Relation.ReflTransGen LineEdit) IsIdle s.lines s'.lines ∧
    parse s'.text = parse s.text := by
  let agent := "User-agent".toList ++ ':' :: " GPTBot".toList
  let capital := "USER-AGENT".toList ++ ':' :: " GPTBot".toList
  let small := "USER-AGENT".toList ++ ':' :: " gptbot".toList
  let loose := "USER-AGENT".toList ++ ['\t'] ++ ':' :: ([] ++ " gptbot".toList)
  let rule := "Disallow: /a".toList
  let s : Sheet := ⟨agent, [(.lf, rule)], by simp [agent, rule, isLineEnd]⟩
  let s' : Sheet := ⟨[], [(.cr, [' ', ' '] ++ loose ++ []), (.crlf, '#' :: " Allow: /".toList),
    (.lf, "Sitemap".toList ++ ':' :: " /b".toList), (.cr, [] ++ rule ++ ['\u3000'])],
    by simp [loose, rule, isLineEnd]⟩
  have hagent : Relation.ReflTransGen LineEdit agent ([' ', ' '] ++ loose ++ []) := by
    have hfield : LineEdit agent capital := .field _ _ _ (by simp) (by simp)
    have hvalue : LineEdit capital small := .agent _ _ _ (by simp) (by decide +kernel) (by simp)
    have hcolon : LineEdit small loose :=
      .colon _ _ _ _ (by simp) (by simp [Text.isBlank]) (by simp)
    have hends : LineEdit loose ([' ', ' '] ++ loose ++ []) :=
      .ends _ _ ⟨[' ', ' '], [], rfl, by simp [Text.isBlank], by simp⟩
    exact (((Relation.ReflTransGen.single hfield).tail hvalue).tail hcolon).tail hends
  have hrule : LineEdit rule ([] ++ rule ++ ['\u3000']) :=
    .ends _ _ ⟨[], ['\u3000'], rfl, by simp, by simp [Text.isBlank]⟩
  have h : Text.Interspersed (Relation.ReflTransGen LineEdit) IsIdle s.lines s'.lines := by
    refine .insert _ _ _ (.blank _ (List.forall_mem_nil _)) (.keep _ _ _ _ hagent ?_)
    refine .insert _ _ _ (.comment [] _ (List.forall_mem_nil _)) (.insert _ _ _ ?_ ?_)
    · exact .other _ _ (by simp) (by decide +kernel)
    · exact .keep _ _ _ _ (.single hrule) .nil
  exact ⟨s, s', by decide +kernel, by decide +kernel, h, (parse_respelled s.text).2 s s' rfl h⟩

end Document

end Crawlability.Robots
