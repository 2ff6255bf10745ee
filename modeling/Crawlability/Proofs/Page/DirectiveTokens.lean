import Crawlability.Proofs.Page.DirectiveSets
import Crawlability.Proofs.Text.Sigma

/-!
The tokens of which a set of directives is made. Lowercasing makes no separator and leaves nothing
empty, so a token is lowered as a whole and is not cut again. Hence a set is read back from its
tokens, however they are ordered and whatever separates them.
-/
namespace Crawlability.Page.Directives

/-- The form in which a set holds a directive. -/
structure IsToken (token : String) : Prop where
  ne_empty : token ≠ ""
  comma_not_mem : ',' ∉ token.toList
  isBlank : ∀ c ∈ token.toList, Text.isBlank c = false
  lowercase : Text.lowercase token = token

theorem isSeparator_eq_false_iff (c : Char) :
    isSeparator c = false ↔ c ≠ ',' ∧ Text.isBlank c = false := by
  simp [isSeparator]

/-- Lowercasing makes no separator out of anything else. -/
theorem eq_of_mem_lowerAt_of_isSeparator (inWord : Bool) (c : Char) (rest : List Char) (mark : Char)
    (hmark : isSeparator mark = true) (h : mark ∈ Text.lowerAt inWord c rest) : mark = c := by
  rw [isSeparator, Bool.or_eq_true, beq_iff_eq] at hmark
  rcases hmark with rfl | hblank
  · exact Text.eq_of_mem_lowerAt_of_isPlain inWord c rest ',' (by decide) (by decide) h
  · exact Text.eq_of_mem_lowerAt_of_isBlank inWord c rest mark h hblank

theorem isSeparator_eq_false_of_mem_lowercaseChars (field : List Char)
    (hfield : ∀ c ∈ field, isSeparator c = false) (mark : Char)
    (h : mark ∈ Text.lowercaseChars field) : isSeparator mark = false := by
  rw [← Bool.not_eq_true]
  intro hmark
  have hmem : mark ∈ field := Text.mem_of_mem_lowercaseFrom mark
    (fun inWord c rest => eq_of_mem_lowerAt_of_isSeparator inWord c rest mark hmark) false field h
  rw [hfield mark hmem] at hmark
  cases hmark

/-- A field in lowercase is a token. -/
theorem isToken_lowercase (field : List Char) (hne : field ≠ [])
    (hfield : ∀ c ∈ field, isSeparator c = false) : IsToken (Text.lowercase (.ofList field)) := by
  have hchars : (Text.lowercase (.ofList field)).toList = Text.lowercaseChars field := by
    rw [Text.toList_lowercase, String.toList_ofList]
  have hplain : ∀ c ∈ (Text.lowercase (.ofList field)).toList, c ≠ ',' ∧ Text.isBlank c = false := by
    intro c hc
    rw [hchars] at hc
    exact (isSeparator_eq_false_iff c).mp
      (isSeparator_eq_false_of_mem_lowercaseChars field hfield c hc)
  refine ⟨?_, fun hcomma => (hplain ',' hcomma).1 rfl, fun c hc => (hplain c hc).2,
    Text.lowercase_lowercase _⟩
  rw [Ne, ← String.toList_eq_nil_iff, hchars]
  exact Text.lowercaseFrom_ne_nil false field hne

theorem isToken_of_mem_parse (value token : String) (h : token ∈ (parse value).toList) :
    IsToken token := by
  obtain ⟨field, hmem, rfl⟩ := (mem_toList_parse value token).mp h
  obtain ⟨_, _, -, hne, hfield, -, -⟩ := Text.isFieldOf_of_mem_fields isSeparator _ field hmem
  exact isToken_lowercase field hne hfield

/-- Tokens that are joined by separators are the directives of the text. -/
theorem mem_toList_parse_joined (tokens : List String) (htokens : ∀ token ∈ tokens, IsToken token)
    (joined : List Char) (h : Text.Joined isSeparator (tokens.map String.toList) joined)
    (token : String) : token ∈ (parse (.ofList joined)).toList ↔ token ∈ tokens := by
  have hfields : Text.fields isSeparator joined = tokens.map String.toList := by
    refine Text.fields_of_joined isSeparator _ joined h ?_
    intro word hword
    obtain ⟨other, hother, rfl⟩ := List.mem_map.mp hword
    have ht := htokens other hother
    refine ⟨mt String.toList_eq_nil_iff.mp ht.ne_empty, ?_⟩
    intro c hc
    refine (isSeparator_eq_false_iff c).mpr ⟨?_, ht.isBlank c hc⟩
    rintro rfl
    exact ht.comma_not_mem hc
  rw [mem_toList_parse, String.toList_ofList, hfields]
  constructor
  · rintro ⟨field, hfield, rfl⟩
    obtain ⟨other, hother, rfl⟩ := List.mem_map.mp hfield
    rwa [String.ofList_toList, (htokens other hother).lowercase]
  · intro hmem
    refine ⟨token.toList, List.mem_map_of_mem hmem, ?_⟩
    rw [String.ofList_toList, (htokens token hmem).lowercase]

/-- What a text is cut into cannot be cut or lowered any further. Whoever joins the tokens of a set,
in any order and by any commas and blanks, has a text of the same set. -/
theorem parse_canonical (value : String) :
    (∀ token ∈ (parse value).toList, IsToken token) ∧
    ∀ tokens : List String, tokens.Perm (parse value).toList →
      ∀ joined, Text.Joined isSeparator (tokens.map String.toList) joined →
        parse (.ofList joined) = parse value := by
  refine ⟨isToken_of_mem_parse value, ?_⟩
  intro tokens hperm joined hjoined
  refine IsAscending.ext _ _ (isAscending_parse _) (isAscending_parse value) ?_
  intro token
  have htokens : ∀ token ∈ tokens, IsToken token :=
    fun token htoken => isToken_of_mem_parse value token (hperm.mem_iff.mp htoken)
  rw [mem_toList_parse_joined tokens htokens joined hjoined, hperm.mem_iff]

end Crawlability.Page.Directives
