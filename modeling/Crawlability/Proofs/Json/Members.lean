import Crawlability.Json.Basic
import Mathlib.Data.List.Induction

/-!
Looking up members of an object. Members may be left out by their names, and their values may be
altered; a look-up then finds nothing, or the altered value. Where no name occurs twice, the members
that are found are those that there are.
-/
namespace Crawlability.Json

/-- The members without those of some names. -/
def without (leftOut : String → Bool) (members : List (String × Json)) : List (String × Json) :=
  members.filter fun member => !leftOut member.1

/-- The members with other values under the same names. -/
def alter (change : String → Json → Json) (members : List (String × Json)) :
    List (String × Json) :=
  members.map fun member => (member.1, change member.1 member.2)

theorem lookup?_concat (members : List (String × Json)) (member : String × Json) (name : String) :
    lookup? (members ++ [member]) name =
      if member.1 = name then some member.2 else lookup? members name := by
  by_cases h : member.1 = name <;> simp [lookup?, h]

theorem lookup?_cons (member : String × Json) (members : List (String × Json))
    (name : String) : lookup? (member :: members) name =
      (lookup? members name).or (if member.1 = name then some member.2 else none) := by
  rw [lookup?, lookup?, List.reverse_cons, List.find?_append]
  by_cases h : member.1 = name
  · simp [h]
  · simp [h]

theorem lookup?_without (leftOut : String → Bool) (members : List (String × Json))
    (name : String) : lookup? (without leftOut members) name =
      if leftOut name = true then none else lookup? members name := by
  induction members using List.reverseRecOn with
  | nil => simp [without, lookup?]
  | append_singleton members member ih =>
    rw [without] at ih ⊢
    rw [lookup?_concat, List.filter_append]
    by_cases hname : member.1 = name
    · subst hname
      by_cases hout : leftOut member.1 = true
      · simp [hout, ih]
      · simp [hout, lookup?_concat]
    · by_cases hout : leftOut member.1 = true
      · simp [hout, ih, hname]
      · simp [hout, ih, hname, lookup?_concat]

theorem lookup?_alter (change : String → Json → Json) (members : List (String × Json))
    (name : String) : lookup? (alter change members) name =
      (lookup? members name).map (change name) := by
  induction members using List.reverseRecOn with
  | nil => rfl
  | append_singleton members member ih =>
    rw [alter] at ih ⊢
    rw [lookup?_concat, List.map_append, List.map_singleton, lookup?_concat, ih]
    by_cases hname : member.1 = name
    · simp [hname]
    · simp [hname]

theorem lookup?_eq_some_iff_mem (members : List (String × Json))
    (hnames : (members.map (·.1)).Nodup) (name : String) (value : Json) :
    lookup? members name = some value ↔ (name, value) ∈ members := by
  induction members using List.reverseRecOn with
  | nil => simp [lookup?]
  | append_singleton members member ih =>
    rw [List.map_append, List.nodup_append] at hnames
    obtain ⟨hold, -, hnew⟩ := hnames
    rw [lookup?_concat, List.mem_append, List.mem_singleton]
    by_cases hname : member.1 = name
    · subst hname
      have habsent : (member.1, value) ∉ members := by
        intro hmem
        exact hnew member.1 (List.mem_map.mpr ⟨_, hmem, rfl⟩) member.1 (by simp) rfl
      simp [habsent, Prod.ext_iff, eq_comm]
    · have hne : (name, value) ≠ member := fun h => hname (by rw [← h])
      simp [hname, ih hold, hne]

end Crawlability.Json
