import Crawlability.Proofs.Http.HeaderLines
import Mathlib

/-!
Headers after a sequence of insertions. There is one entry for each name that was inserted, whatever
its case, and the entry holds the values of that name. So the headers are given by the values of
each name: two sequences that agree in these make the same entries, and insertions under different
names may be swapped.
-/
namespace Crawlability.Http.Headers

/-- The names of the entries are in lowercase and distinct. -/
structure IsTable (h : Headers) : Prop where
  lowercase : ∀ entry ∈ h.entries, Text.asciiLowercase entry.1 = entry.1
  distinct : (h.entries.map (·.1)).Nodup

/-- The names of the lines in lowercase, each as often as it was inserted. -/
def insertedNames (fields : List (String × String)) : List String :=
  fields.map fun field => Text.asciiLowercase field.1

/-- A name is added only if it is not there. -/
theorem map_fst_addTo (name value : String) (entries : List (String × String)) :
    (addTo name value entries).map (·.1) =
      if name ∈ entries.map (·.1) then entries.map (·.1) else entries.map (·.1) ++ [name] := by
  induction entries with
  | nil => rfl
  | cons entry rest ih =>
    obtain ⟨other, values⟩ := entry
    by_cases h : other = name
    · simp [addTo, h]
    · rw [addTo, if_neg h, List.map_cons, ih, List.map_cons]
      by_cases hmem : name ∈ rest.map (·.1)
      · rw [if_pos hmem, if_pos (List.mem_cons_of_mem other hmem)]
      · have hcons : name ∉ other :: rest.map (·.1) := by simp_all [Ne.symm h]
        rw [if_neg hmem, if_neg hcons, List.cons_append]

theorem mem_map_fst_addTo_iff (name value other : String) (entries : List (String × String)) :
    other ∈ (addTo name value entries).map (·.1) ↔
      other ∈ entries.map (·.1) ∨ other = name := by
  rw [map_fst_addTo]
  by_cases h : name ∈ entries.map (·.1)
  · rw [if_pos h, or_iff_left_of_imp]
    rintro rfl
    exact h
  · rw [if_neg h, List.mem_append, List.mem_singleton]

theorem isTable_empty : IsTable {} := ⟨by simp, List.nodup_nil⟩

theorem isTable_insert (h : Headers) (name value : String) (ht : h.IsTable) :
    (h.insert name value).IsTable := by
  constructor
  · intro entry hentry
    have hname := (mem_map_fst_addTo_iff _ value entry.1 h.entries).mp
      (List.mem_map_of_mem hentry)
    rcases hname with hold | hnew
    · obtain ⟨old, hmem, heq⟩ := List.mem_map.mp hold
      rw [← heq]
      exact ht.lowercase old hmem
    · rw [hnew, Text.asciiLowercase_eq_iff, Text.equalsIgnoringAsciiCase_asciiLowercase,
        ← Text.asciiLowercase_eq_iff]
  · rw [insert, map_fst_addTo]
    split
    · exact ht.distinct
    · rename_i hnew
      rw [← List.concat_eq_append]
      exact ht.distinct.concat hnew

theorem isTable_ofList (fields : List (String × String)) : (ofList fields).IsTable :=
  List.foldlRecOn (motive := IsTable) fields _ isTable_empty
    fun h ht field _ => isTable_insert h field.1 field.2 ht

/-- The names of the entries are the names that were inserted. -/
theorem mem_map_fst_entries_ofList_iff (fields : List (String × String)) (name : String) :
    name ∈ (ofList fields).entries.map (·.1) ↔ name ∈ insertedNames fields := by
  induction fields using List.reverseRecOn with
  | nil => rfl
  | append_singleton fields field ih =>
    rw [ofList_concat, insert, mem_map_fst_addTo_iff, ih]
    simp [insertedNames]

theorem size_ofList (fields : List (String × String)) :
    (ofList fields).size = (insertedNames fields).toFinset.card := by
  have hnames : (insertedNames fields).toFinset =
      ((ofList fields).entries.map (·.1)).toFinset := by
    ext name
    rw [List.mem_toFinset, List.mem_toFinset, mem_map_fst_entries_ofList_iff]
  rw [hnames, List.toFinset_card_of_nodup (isTable_ofList fields).distinct, List.length_map, size]

theorem isEmpty_ofList_iff (fields : List (String × String)) :
    (ofList fields).isEmpty = true ↔ fields = [] := by
  have hsize : (ofList fields).isEmpty = true ↔ (ofList fields).size = 0 := by
    rw [isEmpty, size, List.isEmpty_iff, List.length_eq_zero_iff]
  rw [hsize, size_ofList, Finset.card_eq_zero, List.toFinset_eq_empty_iff, insertedNames,
    List.map_eq_nil_iff]

theorem valuesOf_eq_nil_iff (name : String) (fields : List (String × String)) :
    valuesOf name fields = [] ↔
      ∀ field ∈ fields, Text.equalsIgnoringAsciiCase field.1 name = false := by
  simp [valuesOf]

theorem get?_ofList_eq_none_iff (name : String) (fields : List (String × String)) :
    (ofList fields).get? name = none ↔
      ∀ field ∈ fields, Text.equalsIgnoringAsciiCase field.1 name = false := by
  rw [← valuesOf_eq_nil_iff, get?_ofList]
  by_cases h : valuesOf name fields = []
  · simp [h]
  · simp [h]

theorem get?_ofList_eq_some_iff (name value : String) (fields : List (String × String)) :
    (ofList fields).get? name = some value ↔
      valuesOf name fields ≠ [] ∧ ", ".intercalate (valuesOf name fields) = value := by
  rw [get?_ofList]
  by_cases h : valuesOf name fields = []
  · simp [h]
  · simp [h]

/-- In a table the entries are what the look-ups of their names give. -/
theorem IsTable.mem_entries_iff (h : Headers) (ht : h.IsTable) (name value : String) :
    (name, value) ∈ h.entries ↔
      Text.asciiLowercase name = name ∧ h.get? name = some value := by
  constructor
  · intro hmem
    have hname := ht.lowercase _ hmem
    have hfind : h.entries.find? (·.1 == name) = some (name, value) := by
      rw [List.find?_eq_some_iff_append]
      obtain ⟨before, after, hsplit⟩ := List.append_of_mem hmem
      refine ⟨by simp, before, after, hsplit, ?_⟩
      intro entry hentry
      have hdistinct := ht.distinct
      rw [hsplit, List.map_append, List.nodup_append'] at hdistinct
      have hne : entry.1 ≠ name := by
        rintro rfl
        exact hdistinct.2.2 (List.mem_map_of_mem hentry) (List.mem_cons_self ..)
      simp [hne]
    refine ⟨hname, ?_⟩
    rw [get?, hname, hfind]
    rfl
  · rintro ⟨hname, hget⟩
    rw [get?, hname, Option.map_eq_some_iff] at hget
    obtain ⟨⟨other, _⟩, hfind, rfl⟩ := hget
    have heq : other = name := by simpa using List.find?_some hfind
    rw [← heq]
    exact List.mem_of_find?_eq_some hfind

/-- Tables in which each name has the same values have the same entries. -/
theorem IsTable.perm_of_get?_eq (h i : Headers) (hh : h.IsTable) (hi : i.IsTable)
    (hget : ∀ name, h.get? name = i.get? name) : h.entries.Perm i.entries := by
  apply (List.perm_ext_iff_of_nodup (List.Nodup.of_map _ hh.distinct)
    (List.Nodup.of_map _ hi.distinct)).mpr
  intro ⟨name, value⟩
  rw [hh.mem_entries_iff, hi.mem_entries_iff, hget]

/-- Sequences in which each name has the same values make the same headers. -/
theorem ofList_congr (fields others : List (String × String))
    (h : ∀ name, valuesOf name others = valuesOf name fields) :
    (ofList others).entries.Perm (ofList fields).entries ∧
      ∀ name, (ofList others).get? name = (ofList fields).get? name := by
  have hget : ∀ name, (ofList others).get? name = (ofList fields).get? name := by
    intro name
    rw [get?_ofList, get?_ofList, h]
  exact ⟨(isTable_ofList others).perm_of_get?_eq _ _ (isTable_ofList fields) hget, hget⟩

theorem valuesOf_swap (fields : List (String × String)) (first second : String × String)
    (h : Text.equalsIgnoringAsciiCase first.1 second.1 = false) (name : String) :
    valuesOf name (fields ++ [second] ++ [first]) =
      valuesOf name (fields ++ [first] ++ [second]) := by
  have hne := (Text.asciiLowercase_ne_iff first.1 second.1).mpr h
  simp only [valuesOf_concat]
  by_cases hfirst : Text.asciiLowercase first.1 = Text.asciiLowercase name
  · have hsecond : Text.asciiLowercase second.1 ≠ Text.asciiLowercase name :=
      fun hsecond => hne (hfirst.trans hsecond.symm)
    simp only [if_pos hfirst, if_neg hsecond]
  · simp only [if_neg hfirst]

/-- What any sequence of insertions makes. A look-up fails exactly if the name was not inserted in
any case, and otherwise gives its values in order of insertion; the size counts the names, and only
no insertion at all leaves the headers empty. The values of each name are all that counts, so
insertions under different names change places without effect, and the one does not touch what the
other finds. -/
theorem ofList_keeps_values (fields : List (String × String)) :
    (∀ name, (ofList fields).get? name = none ↔
      ∀ field ∈ fields, Text.equalsIgnoringAsciiCase field.1 name = false) ∧
    (∀ name, (∃ field ∈ fields, Text.equalsIgnoringAsciiCase field.1 name = true) →
      (ofList fields).get? name = some (", ".intercalate (valuesOf name fields))) ∧
    (ofList fields).size = (insertedNames fields).toFinset.card ∧
    ((ofList fields).isEmpty = true ↔ fields = []) ∧
    (∀ others, (∀ name, valuesOf name others = valuesOf name fields) →
      (ofList others).entries.Perm (ofList fields).entries ∧
        ∀ name, (ofList others).get? name = (ofList fields).get? name) ∧
    ∀ name value other another, Text.equalsIgnoringAsciiCase name other = false →
      let h := ofList fields
      let h₁ := (h.insert name value).insert other another
      let h₂ := (h.insert other another).insert name value
      h₁.entries.Perm h₂.entries ∧ (∀ any, h₁.get? any = h₂.get? any) ∧
        (h.insert name value).get? other = h.get? other := by
  refine ⟨fun name => get?_ofList_eq_none_iff name fields, ?_, size_ofList fields,
    isEmpty_ofList_iff fields, ofList_congr fields, ?_⟩
  · rintro name ⟨field, hmem, hname⟩
    refine (get?_ofList_eq_some_iff name _ fields).mpr ⟨?_, rfl⟩
    intro hnone
    have hother := (valuesOf_eq_nil_iff name fields).mp hnone field hmem
    rw [hname] at hother
    cases hother
  · intro name value other another hdifferent h h₁ h₂
    have hfirst : ofList (fields ++ [(name, value)] ++ [(other, another)]) = h₁ := by
      rw [ofList_concat, ofList_concat]
    have hsecond : ofList (fields ++ [(other, another)] ++ [(name, value)]) = h₂ := by
      rw [ofList_concat, ofList_concat]
    obtain ⟨hperm, hget⟩ := ofList_congr (fields ++ [(other, another)] ++ [(name, value)])
      (fields ++ [(name, value)] ++ [(other, another)])
      fun any => (valuesOf_swap fields (name, value) (other, another) hdifferent any).symm
    rw [hfirst, hsecond] at hperm hget
    refine ⟨hperm, hget, ?_⟩
    rw [get?_insert, if_neg ((Text.asciiLowercase_ne_iff name other).mpr hdifferent)]

end Crawlability.Http.Headers
