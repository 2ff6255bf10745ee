import Crawlability.Json.Basic

/-!
Reading records from values: fields have names and an order, and some of them may be missing or
null.
-/
namespace Crawlability.Json

/-- The fields of a record by name. An object holds them under their names, whatever else it holds,
and an array holds them in the order of `names`, so far as it reaches, and nothing else. -/
def fields? (names : List String) : Json → Option (String → Option Json)
  | object members => some (lookup? members)
  | array items =>
    if items.length ≤ names.length then
      some fun name => if names.contains name then items[names.idxOf name]? else none
    else none
  | _ => none

/-- The value of a field that has to be there. -/
def required? {α : Type} (read? : Json → Option α) (field? : Option Json) : Option α :=
  field?.bind read?

/-- The value of a field that may be missing or null. -/
def optional? {α : Type} (read? : Json → Option α) : Option Json → Option (Option α)
  | none => some none
  | some null => some none
  | some value => (read? value).map some

end Crawlability.Json
