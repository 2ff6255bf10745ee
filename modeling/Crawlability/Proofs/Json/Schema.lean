import Crawlability.Json.Basic

/-!
Schemas of values. A schema is an object, whose keywords constrain a value independently of one
another: its type, the values of an object under given names, the items of an array, and the names
that an object has to have. Other keywords, such as descriptions, constrain nothing.
-/
namespace Crawlability.Json

/-- The primitive type of a value, as schemas call it. -/
def typeName : Json → String
  | null => "null"
  | bool _ => "boolean"
  | number _ => "number"
  | string _ => "string"
  | array _ => "array"
  | object _ => "object"

/-- The value meets every keyword of the schema. `properties` says nothing of names that the object
does not have, nor of names that it does not list itself. -/
inductive Conforms : Json → Json → Prop
  | intro (keywords : List (String × Json)) (v : Json)
      (type : ∀ name, lookup? keywords "type" = some (.string name) → v.typeName = name)
      (properties : ∀ schemas members, lookup? keywords "properties" = some (.object schemas) →
        v = .object members → ∀ name schema value, lookup? schemas name = some schema →
          lookup? members name = some value → Conforms schema value)
      (items : ∀ schema list, lookup? keywords "items" = some schema → v = .array list →
        ∀ item ∈ list, Conforms schema item)
      (required : ∀ names members, lookup? keywords "required" = some (.array names) →
        v = .object members → ∀ name, .string name ∈ names → lookup? members name ≠ none) :
      Conforms (.object keywords) v

theorem conforms_iff (keywords : List (String × Json)) (v : Json) :
    Conforms (.object keywords) v ↔
      (∀ name, lookup? keywords "type" = some (.string name) → v.typeName = name) ∧
      (∀ schemas members, lookup? keywords "properties" = some (.object schemas) →
        v = .object members → ∀ name schema value, lookup? schemas name = some schema →
          lookup? members name = some value → Conforms schema value) ∧
      (∀ schema list, lookup? keywords "items" = some schema → v = .array list →
        ∀ item ∈ list, Conforms schema item) ∧
      ∀ names members, lookup? keywords "required" = some (.array names) →
        v = .object members → ∀ name, .string name ∈ names → lookup? members name ≠ none := by
  constructor
  · intro h
    cases h with
    | intro _ _ type properties items required => exact ⟨type, properties, items, required⟩
  · rintro ⟨type, properties, items, required⟩
    exact .intro keywords v type properties items required

/-- Of a value that is no object and no array, a schema constrains the type only. -/
theorem conforms_scalar_iff (keywords : List (String × Json)) (type : String)
    (htype : lookup? keywords "type" = some (.string type)) (hobject : type ≠ "object")
    (harray : type ≠ "array") (v : Json) :
    Conforms (.object keywords) v ↔ v.typeName = type := by
  rw [conforms_iff, htype]
  cases v with
  | object members => simp [typeName, hobject.symm]
  | array list => simp [typeName, harray.symm]
  | _ => simp [typeName]

/-- A schema of arrays, all items of which have one schema. -/
theorem conforms_array_iff (keywords : List (String × Json)) (schema : Json)
    (htype : lookup? keywords "type" = some (.string "array"))
    (hitems : lookup? keywords "items" = some schema) (v : Json) :
    Conforms (.object keywords) v ↔
      ∃ list, v = .array list ∧ ∀ item ∈ list, Conforms schema item := by
  rw [conforms_iff, htype, hitems]
  cases v <;> simp [typeName]

/-- A schema of objects with properties, some of them required. -/
theorem conforms_object_iff (keywords schemas : List (String × Json)) (names : List Json)
    (htype : lookup? keywords "type" = some (.string "object"))
    (hproperties : lookup? keywords "properties" = some (.object schemas))
    (hrequired : lookup? keywords "required" = some (.array names)) (v : Json) :
    Conforms (.object keywords) v ↔ ∃ members, v = .object members ∧
      (∀ name schema value, lookup? schemas name = some schema →
        lookup? members name = some value → Conforms schema value) ∧
      ∀ name, .string name ∈ names → lookup? members name ≠ none := by
  rw [conforms_iff, htype, hproperties, hrequired]
  cases v <;> simp [typeName]

end Crawlability.Json
