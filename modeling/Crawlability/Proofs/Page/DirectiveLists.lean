import Crawlability.Page.Directives
import Crawlability.Proofs.Text.Ascii
import Crawlability.Proofs.Text.Fields

/-!
What a list of directives holds. Each field between commas and blanks is one directive, written in
any case; lists that are joined by a comma and a blank hold what the single lists hold.
-/
namespace Crawlability.Page

/-- The value has the directive among its fields, the letters of ASCII in any case. -/
def Lists (value directive : String) : Prop :=
  ∃ field, Text.IsFieldOf Directives.isSeparator value.toList field ∧
    Text.equalsIgnoringAsciiCase (.ofList field) directive = true

namespace Directives

theorem mem_toList_ofList (tokens : List String) (token : String) :
    token ∈ (ofList tokens).toList ↔ token ∈ tokens := by
  have hunion : ofList tokens = union {} ⟨tokens⟩ := rfl
  rw [hunion, mem_toList_union]
  simp

/-- What a union over some items holds, besides what was there before. -/
theorem mem_toList_foldl_union {α : Type} (read : α → Directives) (items : List α)
    (found : Directives) (token : String) :
    token ∈ (items.foldl (fun found item => found.union (read item)) found).toList ↔
      token ∈ found.toList ∨ ∃ item ∈ items, token ∈ (read item).toList := by
  induction items generalizing found with
  | nil => simp
  | cons item items ih =>
    rw [List.foldl_cons, ih, mem_toList_union, or_assoc, List.exists_mem_cons_iff]

theorem mem_toList_parse (value token : String) : token ∈ (parse value).toList ↔
    ∃ field ∈ Text.fields isSeparator value.toList, Text.lowercase (.ofList field) = token := by
  rw [parse, mem_toList_ofList, List.mem_map]
  simp [Text.lowercase]

/-- For a directive that no letter from outside ASCII is lowered to, the case of ASCII letters is
all that a list may change. -/
theorem contains_parse_iff (value directive : String)
    (hplain : ∀ c ∈ directive.toList, Text.IsPlain c)
    (hlower : directive.toList.map Char.toLower = directive.toList) :
    (parse value).contains directive = true ↔ Lists value directive := by
  rw [contains_iff, mem_toList_parse]
  simp only [Lists, Text.mem_fields_iff, Text.lowercase_eq_iff _ _ hplain hlower]

theorem mem_toList_parse_append (value other token : String) :
    token ∈ (parse (value ++ ", " ++ other)).toList ↔
      token ∈ (parse value).toList ∨ token ∈ (parse other).toList := by
  have hchars : (value ++ ", " ++ other).toList =
      value.toList ++ ',' :: ([] ++ ' ' :: other.toList) := by simp
  have hfields : Text.fields isSeparator (value ++ ", " ++ other).toList =
      Text.fields isSeparator value.toList ++ Text.fields isSeparator other.toList := by
    rw [hchars, Text.fields_append_cons _ _ _ _ (by decide),
      Text.fields_append_cons _ _ _ _ (by decide), Text.fields_nil, List.nil_append]
  simp only [mem_toList_parse, hfields, List.mem_append, or_and_right, exists_or]

/-- Lists joined by a comma and a blank hold what the single lists hold. -/
theorem mem_toList_parse_intercalate (values : List String) (token : String) :
    token ∈ (parse (", ".intercalate values)).toList ↔ ∃ value ∈ values, token ∈ (parse value).toList := by
  induction values with
  | nil =>
    rw [String.intercalate_nil, mem_toList_parse, String.toList_empty, Text.fields_nil]
    simp
  | cons value values ih =>
    cases values with
    | nil => simp
    | cons next values =>
      rw [String.intercalate_cons_cons, mem_toList_parse_append, ih]
      simp

end Directives

end Crawlability.Page
