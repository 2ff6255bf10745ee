import Crawlability.Json.Tree
import Mathlib.Data.List.Forall2

/-!
Records as they are written. An object holds a field under its name, once, and may hold anything
else under other names; an array holds the fields in their order, from the first on. A tree is read
as a record exactly when it holds one in either way.
-/
namespace Crawlability.Json

/-- A list is read item by item, and every item has to be read. -/
theorem mapM_eq_some_iff {α β : Type} (read? : α → Option β) (items : List α) (values : List β) :
    items.mapM read? = some values ↔
      List.Forall₂ (fun item value => read? item = some value) items values := by
  induction items generalizing values with
  | nil => cases values <;> simp
  | cons item items ih =>
    rw [List.mapM_cons]
    cases values with
    | nil => cases read? item <;> cases items.mapM read? <;> simp
    | cons value values =>
      rw [List.forall₂_cons, ← ih]
      cases read? item <;> cases items.mapM read? <;> simp

namespace Tree

/-- What an object has under a name: one value, or nothing. Members of other names do not matter. -/
inductive IsField (members : List (Option String × Tree)) (name : String) : Option Tree → Prop
  | given (value : Tree) (before after : List (Option String × Tree))
      (h : members = before ++ (some name, value) :: after)
      (hbefore : ∀ member ∈ before, member.1 ≠ some name)
      (hafter : ∀ member ∈ after, member.1 ≠ some name) : IsField members name (some value)
  | missing (h : ∀ member ∈ members, member.1 ≠ some name) : IsField members name none

/-- The tree is a record with these values of its fields, in the order of the names. Where an array
ends, the fields that are left are missing. -/
inductive Holds (names : List String) : Tree → List (Option Tree) → Prop
  | object (members : List (Option String × Tree)) (fields : List (Option Tree))
      (hnames : ∀ member ∈ members, member.1 ≠ none)
      (hfields : List.Forall₂ (IsField members) names fields) : Holds names (.object members) fields
  | array (items : List Tree) (rest : Nat) (h : items.length + rest = names.length) :
      Holds names (.array items) (items.map some ++ List.replicate rest none)

theorem text?_eq_some_iff (t : Tree) (s : String) : t.text? = some s ↔ t = .string (some s) := by
  cases t <;> simp [text?]

theorem items?_eq_some_iff (t : Tree) (items : List Tree) :
    t.items? = some items ↔ t = .array items := by
  cases t <;> simp [items?]

theorem member?_of_filter_eq_nil (name : String) (members : List (Option String × Tree))
    (h : ∀ member ∈ members, member.1 ≠ some name) : member? name members = some none := by
  have hfilter : members.filter (·.1 == some name) = [] := by
    simpa [List.filter_eq_nil_iff] using h
  simp [member?, hfilter]

theorem member?_eq_some_iff (name : String) (members : List (Option String × Tree))
    (field? : Option Tree) :
    member? name members = some field? ↔ IsField members name field? := by
  constructor
  · intro h
    dsimp only [member?] at h
    split at h
    · rename_i hfilter
      rw [← Option.some.inj h]
      refine .missing ?_
      simpa [List.filter_eq_nil_iff] using hfilter
    · rename_i own value hfilter
      rw [← Option.some.inj h]
      obtain ⟨before, after, hsplit, hbefore, hown, hafter⟩ :=
        List.filter_eq_cons_iff.mp hfilter
      rw [beq_iff_eq] at hown
      subst hown
      refine .given value before after hsplit ?_ ?_
      · simpa using hbefore
      · simpa [List.filter_eq_nil_iff] using hafter
    · cases h
  · intro h
    cases h with
    | given value before after heq hbefore hafter =>
      have hempty : ∀ part : List (Option String × Tree),
          (∀ member ∈ part, member.1 ≠ some name) → part.filter (·.1 == some name) = [] := by
        intro part hpart
        simpa [List.filter_eq_nil_iff] using hpart
      have hfilter : members.filter (·.1 == some name) = [(some name, value)] := by
        rw [heq, List.filter_append, hempty before hbefore, List.filter_cons_of_pos (by simp),
          hempty after hafter, List.nil_append]
      simp only [member?, hfilter]
    | missing hmissing => exact member?_of_filter_eq_nil name members hmissing

theorem record?_eq_some_iff (names : List String) (t : Tree) (fields : List (Option Tree)) :
    t.record? names = some fields ↔ Holds names t fields := by
  constructor
  · intro h
    cases t with
    | object members =>
      obtain ⟨hnames, hfields⟩ := Option.ite_none_right_eq_some.mp h
      rw [mapM_eq_some_iff] at hfields
      simp only [member?_eq_some_iff] at hfields
      refine .object members fields ?_ hfields
      simpa [Option.isSome_iff_ne_none] using hnames
    | array items =>
      obtain ⟨hlength, hfields⟩ := Option.ite_none_right_eq_some.mp h
      rw [← Option.some.inj hfields]
      exact .array items _ (by omega)
    | _ => cases h
  · intro h
    cases h with
    | object members fields hnames hfields =>
      have hall : members.all (·.1.isSome) = true := by
        simpa [Option.isSome_iff_ne_none] using hnames
      rw [record?, if_pos hall, mapM_eq_some_iff]
      simpa only [member?_eq_some_iff] using hfields
    | array items rest hlength =>
      have hrest : names.length - items.length = rest := by omega
      rw [record?, if_pos (by omega), hrest]

end Tree

end Crawlability.Json
