import Crawlability.Http.Headers
import Crawlability.Proofs.Text.LetterCase
import Mathlib.Data.List.Induction

/-!
Headers and the lines that they came in. A look-up gives the values of all lines of the name, in the
order of the lines and joined by a comma and a blank, and nothing when no line has the name.
-/
namespace Crawlability.Http.Headers

/-- The values of the lines with the name, in some case. -/
def valuesOf (name : String) (fields : List (String × String)) : List String :=
  (fields.filter fun field => Text.equalsIgnoringAsciiCase field.1 name).map (·.2)

theorem valuesOf_concat (name : String) (fields : List (String × String))
    (field : String × String) : valuesOf name (fields ++ [field]) =
      if Text.asciiLowercase field.1 = Text.asciiLowercase name then
        valuesOf name fields ++ [field.2]
      else valuesOf name fields := by
  simp only [valuesOf, Text.asciiLowercase_eq_iff, List.filter_append, List.map_append]
  by_cases h : Text.equalsIgnoringAsciiCase field.1 name = true
  · simp [h]
  · simp [h]

theorem ofList_concat (fields : List (String × String)) (field : String × String) :
    ofList (fields ++ [field]) = (ofList fields).insert field.1 field.2 := by
  simp [ofList]

theorem get?_ofList (name : String) (fields : List (String × String)) :
    (ofList fields).get? name =
      if valuesOf name fields = [] then none
      else some (", ".intercalate (valuesOf name fields)) := by
  induction fields using List.reverseRecOn with
  | nil => rfl
  | append_singleton fields field ih =>
    rw [ofList_concat, get?_insert, ih, valuesOf_concat]
    by_cases hname : Text.asciiLowercase field.1 = Text.asciiLowercase name
    · rw [if_pos hname, if_pos hname, if_neg (List.concat_ne_nil _ _)]
      by_cases hnone : valuesOf name fields = []
      · simp [hnone]
      · rw [if_neg hnone, String.intercalate_append_of_ne_nil hnone (List.cons_ne_nil _ _),
          String.intercalate_singleton]
    · rw [if_neg hname, if_neg hname]

end Crawlability.Http.Headers
