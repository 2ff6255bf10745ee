import Crawlability.Text.Blank
import Crawlability.Text.Lowercase

/-!
Sets of indexing directives. A set is kept as a list in strictly ascending order, so that two lists
of the same directives are the same set.
-/
namespace Crawlability.Page

/-- Directives in strictly ascending order of their characters. -/
structure Directives where
  toList : List String := []
deriving Repr, DecidableEq

namespace Directives

/-- The list with one more directive at its place, or unchanged if it is there already. -/
def insertSorted (token : String) : List String → List String
  | [] => [token]
  | head :: rest =>
    if token < head then token :: head :: rest
    else if token = head then head :: rest
    else head :: insertSorted token rest

def insert (d : Directives) (token : String) : Directives := ⟨insertSorted token d.toList⟩

def ofList (tokens : List String) : Directives := tokens.foldl insert {}

def union (d e : Directives) : Directives := e.toList.foldl insert d

def contains (d : Directives) (token : String) : Bool := d.toList.contains token

theorem mem_insertSorted {token other : String} {tokens : List String} :
    other ∈ insertSorted token tokens ↔ other = token ∨ other ∈ tokens := by
  induction tokens with
  | nil => simp [insertSorted]
  | cons head rest ih =>
    unfold insertSorted
    split
    · simp
    · split
      · rename_i heq
        simp [heq]
      · rw [List.mem_cons, List.mem_cons, ih]
        exact or_left_comm

@[simp] theorem mem_toList_insert {d : Directives} {token other : String} :
    other ∈ (d.insert token).toList ↔ other = token ∨ other ∈ d.toList := mem_insertSorted

@[simp] theorem mem_toList_union {d e : Directives} {token : String} :
    token ∈ (d.union e).toList ↔ token ∈ d.toList ∨ token ∈ e.toList := by
  unfold union
  induction e.toList generalizing d with
  | nil => simp
  | cons head rest ih =>
    simp only [List.foldl_cons, ih, mem_toList_insert, List.mem_cons]
    grind

theorem contains_iff {d : Directives} {token : String} :
    d.contains token = true ↔ token ∈ d.toList := by simp [contains]

/-- Commas and blanks separate directives. -/
def isSeparator (c : Char) : Bool := c == ',' || Text.isBlank c

/-- The directives of a list such as `noindex, nofollow`, in lowercase. -/
def parse (value : String) : Directives :=
  ofList ((Text.fields isSeparator value.toList).map fun token =>
    .ofList (Text.lowercaseChars token))

end Directives

end Crawlability.Page
