import Crawlability.Text.Lowercase

/-!
The headers of a response by name. Names are compared without regard to ASCII case, and the values
of a name that occurs more than once are joined by a comma and a blank in order of arrival.
-/
namespace Crawlability.Http

/-- One value, joined where needed, for each name; the names are in lowercase and distinct. -/
structure Headers where
  entries : List (String × String) := []
deriving Repr, DecidableEq

namespace Headers

/-- Adds a value behind the ones that the name, given in lowercase, has already. -/
def addTo (name value : String) : List (String × String) → List (String × String)
  | [] => [(name, value)]
  | (other, values) :: rest =>
    if other = name then (other, values ++ ", " ++ value) :: rest
    else (other, values) :: addTo name value rest

def insert (h : Headers) (name value : String) : Headers :=
  ⟨addTo (Text.asciiLowercase name) value h.entries⟩

def get? (h : Headers) (name : String) : Option String :=
  (h.entries.find? (·.1 == Text.asciiLowercase name)).map (·.2)

theorem find?_addTo (name value other : String) (entries : List (String × String)) :
    ((addTo name value entries).find? (·.1 == other)).map (·.2) =
      if name = other then
        some (match (entries.find? (·.1 == other)).map (·.2) with
          | none => value
          | some values => values ++ ", " ++ value)
      else (entries.find? (·.1 == other)).map (·.2) := by
  induction entries with
  | nil => by_cases h : name = other <;> simp [addTo, h]
  | cons entry rest ih =>
    by_cases h : entry.1 = name
    · by_cases hother : name = other <;> simp_all [addTo]
    · by_cases hother : entry.1 = other
      · subst hother
        simp [addTo, h, Ne.symm h]
      · simp [addTo, h, hother, ih]

/-- A value joins those of its own name and leaves all others alone. -/
theorem get?_insert (h : Headers) (name value other : String) :
    (h.insert name value).get? other =
      if Text.asciiLowercase name = Text.asciiLowercase other then
        some (match h.get? other with
          | none => value
          | some values => values ++ ", " ++ value)
      else h.get? other :=
  find?_addTo ..

def size (h : Headers) : Nat := h.entries.length

def isEmpty (h : Headers) : Bool := h.entries.isEmpty

def ofList (fields : List (String × String)) : Headers :=
  fields.foldl (fun h field => h.insert field.1 field.2) {}

end Headers

end Crawlability.Http
