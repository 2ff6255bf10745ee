import Crawlability.Proofs.Page.QuotedPairs

/-!
Tags with values of any kind. A value may hold everything but the double quote that ends it:
brackets, equals signs, line feeds and what looks like attributes. Reading such a tag gives its
names with values, in order, and a look-up the last value of a name.
-/
namespace Crawlability.Page

/-- A tag as it is written: a bracket and a name in letters of ASCII, attributes, and at the end
blanks, a slash, a bracket or nothing. The end holds no name and no equals sign. -/
structure WrittenTag where
  name : List Char
  isAlpha : ∀ c ∈ name, c.isAlpha = true
  attributes : List Attribute
  ending : List Char
  plain : ∀ c ∈ ending, isNameChar c = false ∧ c ≠ '='

/-- The attribute gives the value to the name, which is in lowercase. -/
def Attribute.Assigns (a : Attribute) (name value : String) : Prop :=
  ∃ assignment, a.assignment? = some assignment ∧
    String.ofList (a.name.text.map Char.toLower) = name ∧ String.ofList assignment.value = value

theorem Attribute.pair?_eq_some_iff (a : Attribute) (name value : String) :
    a.pair? = some (name, value) ↔ a.Assigns name value := by
  simp [pair?, Assigns, Option.map_eq_some_iff]

/-! Look-ups in what is read of a list of attributes. -/

section Lists

variable (attributes : List Attribute) (name : String)

theorem get?_filterMap_pair?_eq_some_iff (value : String) :
    (Attributes.mk (attributes.filterMap Attribute.pair?)).get? name = some value ↔
      ∃ before a after, attributes = before ++ a :: after ∧ a.Assigns name value ∧
        ∀ b ∈ after, ∀ other, ¬ b.Assigns name other := by
  rw [Attributes.get?_eq_some_iff]
  constructor
  · rintro ⟨before, after, hsplit, hafter⟩
    obtain ⟨first, rest, rfl, -, hrest⟩ := List.filterMap_eq_append_iff.mp hsplit
    obtain ⟨bare, a, last, rfl, -, ha, rfl⟩ := List.filterMap_eq_cons_iff.mp hrest
    refine ⟨first ++ bare, a, last, by simp, (a.pair?_eq_some_iff name value).mp ha, ?_⟩
    intro b hb other hassigns
    have hpair := (b.pair?_eq_some_iff name other).mpr hassigns
    exact hafter (name, other) (List.mem_filterMap.mpr ⟨b, hb, hpair⟩) rfl
  · rintro ⟨before, a, after, rfl, ha, hafter⟩
    refine ⟨before.filterMap Attribute.pair?, after.filterMap Attribute.pair?, ?_, ?_⟩
    · rw [List.filterMap_append, List.filterMap_cons_some ((a.pair?_eq_some_iff name value).mpr ha)]
    · rintro ⟨other, another⟩ hpair rfl
      obtain ⟨b, hb, hread⟩ := List.mem_filterMap.mp hpair
      exact hafter b hb another ((b.pair?_eq_some_iff other another).mp hread)

theorem get?_filterMap_pair?_eq_none_iff :
    (Attributes.mk (attributes.filterMap Attribute.pair?)).get? name = none ↔
      ∀ a ∈ attributes, ∀ value, ¬ a.Assigns name value := by
  rw [Attributes.get?_eq_none_iff]
  constructor
  · intro hnone a ha value hassigns
    have hpair := (a.pair?_eq_some_iff name value).mpr hassigns
    exact hnone (name, value) (List.mem_filterMap.mpr ⟨a, ha, hpair⟩) rfl
  · rintro hnone ⟨other, value⟩ hpair rfl
    obtain ⟨a, ha, hread⟩ := List.mem_filterMap.mp hpair
    exact hnone a ha value ((a.pair?_eq_some_iff other value).mp hread)

end Lists

namespace WrittenTag

variable (t : WrittenTag)

def printed : List Char := '<' :: (t.name ++ (printAttributes t.attributes ++ t.ending))

theorem isNameChar_of_mem_name : ∀ c ∈ t.name, isNameChar c = true := by
  intro c hc
  simp [isNameChar, Char.isAlphanum, t.isAlpha c hc]

theorem endsName_ending : EndsName t.ending := by
  constructor
  · rw [List.takeWhile_eq_nil_iff]
    intro hpos
    simp [(t.plain _ (List.getElem_mem hpos)).1]
  · intro hequals
    have hmem := (List.dropWhile_suffix Text.isBlank).subset (List.mem_of_head? hequals)
    exact (t.plain '=' hmem).2 rfl

theorem findAll_quotedPair_ending : quotedPair.findAll t.ending = [] := by
  have hnone := quotedPair.findAll_append_of_none t.ending [] <|
    quotedPair.eq_none_of_suffix t.ending [] fun c hc after =>
      quotedPair_cons_of_not_nameChar c after (t.plain c hc).1
  rwa [List.append_nil] at hnone

/-- The names with values are read, in order, and nothing else: neither the name of the tag, nor a
bare name, nor anything within a value. -/
theorem ofTag_printed :
    Attributes.ofTag t.printed = ⟨t.attributes.filterMap Attribute.pair?⟩ := by
  have hbehind := endsName_printAttributes_append t.attributes t.ending t.endsName_ending
  rw [Attributes.ofTag, printed,
    quotedPair.findAll_cons_of_none '<' _ (quotedPair_cons_of_not_nameChar '<' _ (by decide)),
    findAll_quotedPair_bare t.name _ t.isNameChar_of_mem_name hbehind,
    findAll_quotedPair_printAttributes_append t.attributes t.ending t.endsName_ending,
    findAll_quotedPair_ending, List.append_nil]

/-- Reading undoes printing. What is read are the pairs of the tag in order; a look-up gives the
value of the last attribute that assigns one to the name, and nothing if no attribute does. -/
theorem get?_ofTag_printed :
    (Attributes.ofTag t.printed).pairs = t.attributes.filterMap Attribute.pair? ∧
    ∀ name,
      (∀ value, (Attributes.ofTag t.printed).get? name = some value ↔
        ∃ before a after, t.attributes = before ++ a :: after ∧ a.Assigns name value ∧
          ∀ b ∈ after, ∀ other, ¬ b.Assigns name other) ∧
      ((Attributes.ofTag t.printed).get? name = none ↔
        ∀ a ∈ t.attributes, ∀ value, ¬ a.Assigns name value) := by
  rw [ofTag_printed]
  refine ⟨rfl, ?_⟩
  intro name
  exact ⟨get?_filterMap_pair?_eq_some_iff t.attributes name,
    get?_filterMap_pair?_eq_none_iff t.attributes name⟩

end WrittenTag

end Crawlability.Page
