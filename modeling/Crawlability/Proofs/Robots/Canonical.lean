import Crawlability.Proofs.Robots.Grouping
import Crawlability.Proofs.Text.Lowercase

/-!
Documents written out as robots files. A document is canonical when its groups are well grouped and
its agents and paths are what a line can hold: trimmed, on one line, agents in lowercase. Written
one entry to a line, a canonical document is read back as it was; and whatever is read from a text
is canonical, so reading, writing and reading again is reading once.
-/
namespace Crawlability.Robots

/-- The text can stand as the value of a field: it is trimmed and on one line. -/
structure IsValue (s : String) : Prop where
  trimmed : Text.trim s = s
  oneLine : ∀ c ∈ s.toList, c ≠ '\r' ∧ c ≠ '\n'

namespace Entry

/-- The field that the entry is written with. -/
def field : Entry → String
  | .agent _ => "User-agent"
  | .rule ⟨.allow, _⟩ => "Allow"
  | .rule ⟨.disallow, _⟩ => "Disallow"

def value : Entry → String
  | .agent name => name
  | .rule r => r.path

/-- The line that says the entry. -/
def line (e : Entry) : String := e.field ++ ": " ++ e.value

/-- The name or the path is a value; names are in lowercase. -/
def IsCanonical : Entry → Prop
  | .agent name => IsValue name ∧ Text.lowercase name = name
  | .rule r => IsValue r.path

end Entry

namespace Document

/-- The entries of all groups, one to a line. -/
def print (d : Document) : String :=
  "\n".intercalate ((d.groups.flatMap Group.entries).map Entry.line)

structure IsCanonical (d : Document) : Prop where
  grouped : WellGrouped d.groups
  agents : ∀ g ∈ d.groups, ∀ name ∈ g.agents, IsValue name ∧ Text.lowercase name = name
  paths : ∀ g ∈ d.groups, ∀ r ∈ g.rules, IsValue r.path

theorem isCanonical_iff (d : Document) : d.IsCanonical ↔
    WellGrouped d.groups ∧ ∀ e ∈ d.groups.flatMap Group.entries, e.IsCanonical := by
  simp only [List.mem_flatMap, Group.entries, List.mem_append, List.mem_map]
  constructor
  · rintro ⟨hgrouped, hagents, hpaths⟩
    refine ⟨hgrouped, ?_⟩
    rintro e ⟨g, hg, ⟨name, hname, rfl⟩ | ⟨r, hr, rfl⟩⟩
    · exact hagents g hg name hname
    · exact hpaths g hg r hr
  · rintro ⟨hgrouped, hentries⟩
    constructor
    · exact hgrouped
    · intro g hg name hname
      exact hentries (.agent name) ⟨g, hg, Or.inl ⟨name, hname, rfl⟩⟩
    · intro g hg r hr
      exact hentries (.rule r) ⟨g, hg, Or.inr ⟨r, hr, rfl⟩⟩

end Document

namespace Entry

theorem isValue_value (e : Entry) (h : e.IsCanonical) : IsValue e.value := by
  cases e with
  | agent name => exact h.1
  | rule r => exact h

theorem field_mem (e : Entry) : e.field ∈ ["User-agent", "Allow", "Disallow"] := by
  rcases e with name | ⟨directive, path⟩
  · simp [field]
  · cases directive <;> simp [field]

/-- The fields have no colon, do not open a comment and do not end a line. -/
theorem field_plain (e : Entry) : ':' ∉ e.field.toList ∧
    (Text.trimStart e.field.toList).head? ≠ some '#' ∧
      ∀ c ∈ e.field.toList, c ≠ '\r' ∧ c ≠ '\n' := by
  have hplain : ∀ name ∈ ["User-agent", "Allow", "Disallow"], ':' ∉ name.toList ∧
      (Text.trimStart name.toList).head? ≠ some '#' ∧
        ∀ c ∈ name.toList, c ≠ '\r' ∧ c ≠ '\n' := by
    simp [Text.trimStart, Text.isBlank]
  exact hplain e.field e.field_mem

theorem toList_line (e : Entry) :
    e.line.toList = e.field.toList ++ ':' :: ' ' :: e.value.toList := by
  simp [line]

theorem isField_line (e : Entry) (h : e.IsCanonical) :
    IsField e.line.toList (Text.trimChars e.field.toList) e.value.toList := by
  have hvalue : Text.trimChars (' ' :: e.value.toList) = e.value.toList :=
    (Text.trim_eq_self_iff e.value).mp (e.isValue_value h).trimmed
  obtain ⟨hcolon, hhead, _⟩ := e.field_plain
  refine ⟨_, _, e.toList_line, hcolon, ?_, rfl, hvalue.symm⟩
  rw [toList_line, Text.trimChars_append_cons _ _ _ isBlank_colon]
  cases hstart : Text.trimStart e.field.toList with
  | nil => simp
  | cons c rest =>
    rw [hstart] at hhead
    exact hhead

/-- What is written for an entry says that entry. -/
theorem says_line (e : Entry) (h : e.IsCanonical) : Says e.line.toList e := by
  have hfield := e.isField_line h
  rcases e with name | ⟨directive, path⟩
  · have hname : String.ofList (Text.lowercaseChars (Text.trimChars "User-agent".toList)) =
        "user-agent" := by decide
    have hlower : String.ofList (Text.lowercaseChars name.toList) = name := h.2
    have hsays := Says.agent _ _ hfield hname
    rwa [value, hlower] at hsays
  · cases directive with
    | allow =>
      have hname : String.ofList (Text.lowercaseChars (Text.trimChars "Allow".toList)) =
          "allow" := by decide
      have hsays := Says.allow _ _ hfield hname
      rwa [value, String.ofList_toList] at hsays
    | disallow =>
      have hname : String.ofList (Text.lowercaseChars (Text.trimChars "Disallow".toList)) =
          "disallow" := by decide
      have hsays := Says.disallow _ _ hfield hname
      rwa [value, String.ofList_toList] at hsays

theorem oneLine_line (e : Entry) (h : e.IsCanonical) :
    ∀ c ∈ e.line.toList, c ≠ '\r' ∧ c ≠ '\n' := by
  intro c hc
  rw [toList_line, List.mem_append, List.mem_cons, List.mem_cons] at hc
  rcases hc with hc | rfl | rfl | hc
  · exact e.field_plain.2.2 c hc
  · decide
  · decide
  · exact (e.isValue_value h).oneLine c hc

end Entry

namespace Document

theorem entries_intercalate_line (es : List Entry) (h : ∀ e ∈ es, e.IsCanonical) :
    entries ("\n".intercalate (es.map Entry.line)) = es := by
  cases hes : es with
  | nil => rfl
  | cons first rest =>
    rw [← hes]
    have hlines : lines ("\n".intercalate (es.map Entry.line)) =
        es.map fun e => e.line.toList := by
      rw [lines_intercalate _ (by simp [hes]), List.map_map]
      · rfl
      · intro l hl
        obtain ⟨e, he, rfl⟩ := List.mem_map.mp hl
        exact e.oneLine_line (h e he)
    have hread : ∀ e ∈ es, Entry.ofLine? e.line.toList = some e := by
      intro e he
      exact (Entry.ofLine?_eq_some_iff _ e).mpr (e.says_line (h e he))
    calc
      entries ("\n".intercalate (es.map Entry.line)) =
          es.filterMap fun e => Entry.ofLine? e.line.toList := by
        rw [entries, hlines, List.filterMap_map]
        rfl
      _ = es.filterMap some := List.filterMap_congr hread
      _ = es := List.filterMap_some

/-! Gathering the entries of well-grouped groups gives the groups again. -/

theorem groupsFrom_map_agent (agents names : List String) (rest : List Entry) :
    groupsFrom { agents := agents } (names.map .agent ++ rest) =
      groupsFrom { agents := agents ++ names } rest := by
  induction names generalizing agents with
  | nil => simp
  | cons name names ih =>
    rw [List.map_cons, List.cons_append, groupsFrom_agent_of_no_rules _ name _ rfl,
      Group.addAgent, ih, List.append_assoc, List.singleton_append]

theorem groupsFrom_map_rule (agents : List String) (rules more : List Rule) (rest : List Entry)
    (h : agents ≠ []) : groupsFrom ⟨agents, rules⟩ (more.map .rule ++ rest) =
      groupsFrom ⟨agents, rules ++ more⟩ rest := by
  induction more generalizing rules with
  | nil => simp
  | cons r more ih =>
    have hadd : Group.addRule ⟨agents, rules⟩ r = ⟨agents, rules ++ [r]⟩ := by
      simp [Group.addRule, h]
    rw [List.map_cons, List.cons_append, groupsFrom, hadd, ih, List.append_assoc,
      List.singleton_append]

/-- Behind its first agent, a group takes in all of its own entries. -/
theorem groupsFrom_entries (name : String) (names : List String) (rules : List Rule)
    (rest : List Entry) : groupsFrom { agents := [name] }
      (names.map .agent ++ rules.map .rule ++ rest) = groupsFrom ⟨name :: names, rules⟩ rest := by
  rw [List.append_assoc, groupsFrom_map_agent, groupsFrom_map_rule _ _ _ _ (by simp)]
  rfl

theorem groupsFrom_flatMap_entries (current : Group) (groups : List Group)
    (h : WellGrouped (current :: groups)) :
    groupsFrom current (groups.flatMap Group.entries) = current :: groups := by
  have hagents : current.agents ≠ [] := h.agents_ne_nil current (List.mem_cons_self ..)
  induction groups generalizing current with
  | nil => simp [groupsFrom, hagents]
  | cons g groups ih =>
    have hrules : current.rules ≠ [] := h.rules_ne_nil current (by simp)
    have hgroups : WellGrouped (g :: groups) := WellGrouped.tail current _ h
    obtain ⟨names, rules⟩ := g
    cases names with
    | nil => exact absurd rfl (hgroups.agents_ne_nil _ (List.mem_cons_self ..))
    | cons name names =>
      rw [List.flatMap_cons, Group.entries, List.map_cons, List.cons_append, List.cons_append,
        groupsFrom_agent_of_rules current name _ hagents hrules, groupsFrom_entries,
        ih _ hgroups (List.cons_ne_nil _ _)]

theorem ofEntries_flatMap_entries (d : Document) (h : WellGrouped d.groups) :
    ofEntries (d.groups.flatMap Group.entries) = d := by
  obtain ⟨groups⟩ := d
  cases groups with
  | nil => rfl
  | cons g groups =>
    obtain ⟨names, rules⟩ := g
    cases names with
    | nil => exact absurd rfl (h.agents_ne_nil _ (List.mem_cons_self ..))
    | cons name names =>
      rw [ofEntries, List.flatMap_cons, Group.entries, List.map_cons, List.cons_append,
        List.cons_append, groupsFrom_agent_of_no_rules _ name _ rfl, Group.addAgent,
        List.nil_append, groupsFrom_entries, groupsFrom_flatMap_entries _ _ h]

theorem parse_print (d : Document) (h : d.IsCanonical) : parse d.print = d := by
  obtain ⟨hgrouped, hentries⟩ := (isCanonical_iff d).mp h
  rw [parse, print, entries_intercalate_line _ hentries, ofEntries_flatMap_entries d hgrouped]

/-! What is read is canonical. -/

/-- The value of a field on one line is on one line itself, and trimmed. -/
theorem isValue_of_isField (line field value : List Char) (h : IsField line field value)
    (hline : ∀ c ∈ line, isLineEnd c = false) : IsValue (String.ofList value) := by
  obtain ⟨a, b, rfl, _, _, _, rfl⟩ := h
  constructor
  · rw [Text.trim_eq_self_iff, String.toList_ofList, Text.trimChars_trimChars]
  · intro c hc
    rw [String.toList_ofList] at hc
    have hmem : c ∈ a ++ ':' :: b := by simp [Text.mem_of_mem_trimChars b c hc]
    exact (isLineEnd_eq_false_iff c).mp (hline c hmem)

theorem isBlank_of_isLineEnd (c : Char) (h : isLineEnd c = true) : Text.isBlank c = true := by
  simp only [isLineEnd, Bool.or_eq_true, beq_iff_eq] at h
  rcases h with rfl | rfl <;> decide

/-- Lowercasing a value gives a value. -/
theorem isValue_lowercase (s : String) (h : IsValue s) : IsValue (Text.lowercase s) := by
  constructor
  · rw [Text.trim_eq_self_iff, Text.toList_lowercase, Text.trimChars_eq_self_iff]
    apply Text.hasTrimmedEnds_lowercaseChars
    rw [← Text.trimChars_eq_self_iff, ← Text.trim_eq_self_iff]
    exact h.trimmed
  · intro c hc
    rw [Text.toList_lowercase] at hc
    rw [← isLineEnd_eq_false_iff, ← Bool.not_eq_true]
    intro hend
    have hmem := Text.mem_of_mem_lowercaseFrom_of_isBlank false s.toList c hc
      (isBlank_of_isLineEnd c hend)
    rw [(isLineEnd_eq_false_iff c).mpr (h.oneLine c hmem)] at hend
    cases hend

theorem isCanonical_of_says (line : List Char) (e : Entry) (h : Says line e)
    (hline : ∀ c ∈ line, isLineEnd c = false) : e.IsCanonical := by
  cases h with
  | agent field value hfield hname =>
    have hvalue := isValue_of_isField line field value hfield hline
    have hlower : String.ofList (Text.lowercaseChars value) =
        Text.lowercase (String.ofList value) := by
      rw [Text.lowercase, String.toList_ofList]
    rw [hlower]
    exact ⟨isValue_lowercase _ hvalue, Text.lowercase_lowercase _⟩
  | allow field value hfield hname => exact isValue_of_isField line field value hfield hline
  | disallow field value hfield hname => exact isValue_of_isField line field value hfield hline

theorem isCanonical_of_mem_entries (text : String) (e : Entry) (h : e ∈ entries text) :
    e.IsCanonical := by
  obtain ⟨line, hline, hsays⟩ := (mem_entries_iff text e).mp h
  exact isCanonical_of_says line e hsays (isLineEnd_eq_false_of_mem_lines text line hline)

theorem isCanonical_star : (Entry.agent "*").IsCanonical :=
  ⟨⟨by decide, by simp⟩, by decide⟩

theorem isCanonical_parse (text : String) : (parse text).IsCanonical := by
  rw [isCanonical_iff, parse, flatMap_groups_ofEntries]
  refine ⟨wellGrouped_ofEntries (entries text), ?_⟩
  have hentries := isCanonical_of_mem_entries text
  intro e he
  cases hes : entries text with
  | nil =>
    rw [hes] at he
    cases he
  | cons first rest =>
    rw [hes] at he hentries
    cases first with
    | agent name => exact hentries e he
    | rule r =>
      rcases List.mem_cons.mp he with rfl | he
      · exact isCanonical_star
      · exact hentries e he

/-- The canonical documents are those that are read back as they were, and those that are read. -/
theorem isCanonical_iff_parse_print : (∀ d : Document, d.IsCanonical ↔ parse d.print = d) ∧
    ∀ text, (parse text).IsCanonical ∧ parse (parse text).print = parse text := by
  constructor
  · intro d
    constructor
    · exact parse_print d
    · intro hread
      rw [← hread]
      exact isCanonical_parse d.print
  · intro text
    exact ⟨isCanonical_parse text, parse_print _ (isCanonical_parse text)⟩

end Document

end Crawlability.Robots
