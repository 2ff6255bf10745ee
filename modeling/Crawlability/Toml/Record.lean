import Crawlability.Toml.Basic

/-!
Reading records from values: fields have names and an order, may have defaults, and are of given
types.
-/
namespace Crawlability.Toml

/-- The fields of a record by name. A table holds them under their names, whatever else it holds. An
array holds them in the order of `names`, so far as it reaches. A date has none of them. -/
def fields? (names : List String) : Toml → Option (String → Option Toml)
  | table entries => some (lookup? entries)
  | array items => some fun name => if names.contains name then items[names.idxOf name]? else none
  | date _ => some fun _ => none
  | _ => none

/-- The value of a field that may be missing. -/
def fieldOr {α : Type} (default : α) (read? : Toml → Option α) : Option Toml → Option α
  | none => some default
  | some value => read? value

def text? : Toml → Option String
  | string value => some value
  | _ => none

/-- An integer that is not negative and below the bound. -/
def naturalBelow? (bound : Nat) : Toml → Option Nat
  | integer n => if 0 ≤ n ∧ n < bound then some n.toNat else none
  | _ => none

/-- A number of 32 bits. -/
def word? : Toml → Option Nat := naturalBelow? (Nat.pow 2 32)

/-- A number of 64 bits. -/
def longWord? : Toml → Option Nat := naturalBelow? (Nat.pow 2 64)

/-- The value of a text field that may be missing. -/
def optionalText? : Option Toml → Option (Option String) :=
  fieldOr none fun value => value.text?.map some

end Crawlability.Toml
