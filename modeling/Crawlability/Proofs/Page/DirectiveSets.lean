import Crawlability.Proofs.Page.DirectiveLists
import Mathlib.Data.List.Sort
import Mathlib.Data.String.Basic

/-!
Sets of directives are given by their members. A set that is read from a text, or put together from
such sets, is in strictly ascending order; two lists in that order with the same members are one
list. So the union of sets can be compared as a value.
-/
namespace Crawlability.Page.Directives

/-- The directives are in strictly ascending order. -/
def IsAscending (d : Directives) : Prop := d.toList.Pairwise (· < ·)

theorem isAscending_empty : IsAscending {} := List.Pairwise.nil

theorem pairwise_insertSorted (token : String) (tokens : List String)
    (h : tokens.Pairwise (· < ·)) : (insertSorted token tokens).Pairwise (· < ·) := by
  induction tokens with
  | nil => exact List.pairwise_singleton _ token
  | cons head rest ih =>
    obtain ⟨hhead, hrest⟩ := List.pairwise_cons.mp h
    unfold insertSorted
    split
    · rename_i hless
      refine List.pairwise_cons.mpr ⟨?_, h⟩
      intro other hother
      rcases List.mem_cons.mp hother with rfl | hmem
      · exact hless
      · exact lt_trans hless (hhead other hmem)
    · rename_i hnotLess
      split
      · exact h
      · rename_i hne
        refine List.pairwise_cons.mpr ⟨?_, ih hrest⟩
        intro other hother
        rcases mem_insertSorted.mp hother with rfl | hmem
        · exact lt_of_le_of_ne (not_lt.mp hnotLess) (Ne.symm hne)
        · exact hhead other hmem

theorem isAscending_foldl_insert (tokens : List String) (d : Directives) (hd : d.IsAscending) :
    (tokens.foldl insert d).IsAscending := by
  induction tokens generalizing d with
  | nil => exact hd
  | cons token tokens ih => exact ih _ (pairwise_insertSorted token d.toList hd)

theorem isAscending_parse (value : String) : (parse value).IsAscending :=
  isAscending_foldl_insert _ _ isAscending_empty

theorem isAscending_union (d e : Directives) (hd : d.IsAscending) : (d.union e).IsAscending :=
  isAscending_foldl_insert _ _ hd

theorem IsAscending.ext (d e : Directives) (hd : d.IsAscending) (he : e.IsAscending)
    (h : ∀ token, token ∈ d.toList ↔ token ∈ e.toList) : d = e := by
  obtain ⟨tokens⟩ := d
  obtain ⟨others⟩ := e
  exact congrArg Directives.mk (List.Pairwise.eq_of_mem_iff hd he h)

/-- All that the values list, value by value. -/
def unionOf (values : List String) : Directives :=
  values.foldl (fun found value => found.union (parse value)) {}

theorem isAscending_unionOf (values : List String) : (unionOf values).IsAscending :=
  List.foldlRecOn (motive := IsAscending) values _ isAscending_empty
    fun found hfound value _ => isAscending_union found (parse value) hfound

theorem mem_toList_unionOf (values : List String) (token : String) :
    token ∈ (unionOf values).toList ↔ ∃ value ∈ values, token ∈ (parse value).toList := by
  rw [unionOf, mem_toList_foldl_union]
  simp

/-- Values joined by a comma and a blank list what they list one by one. -/
theorem parse_intercalate (values : List String) :
    parse (", ".intercalate values) = unionOf values := by
  refine IsAscending.ext _ _ (isAscending_parse _) (isAscending_unionOf values) ?_
  intro token
  rw [mem_toList_parse_intercalate, mem_toList_unionOf]

end Crawlability.Page.Directives
