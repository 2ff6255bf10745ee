import Crawlability.Toml.Basic

/-!
Tables while a document is being read. A table remembers how it came about, because that decides
what may still be added to it: a table with a header of its own is closed to dotted keys from
elsewhere, a table that only dotted keys made gets no header, and one that stands above a header may
get its own later.
-/
namespace Crawlability.Toml

/-- How a table came about. -/
inductive Origin where
  /-- It has a header. -/
  | header
  /-- It is named on the way to a header. -/
  | above
  /-- It is named on the way to a dotted key. -/
  | dotted
deriving Repr, DecidableEq

inductive Draft where
  | value (value : Toml)
  | table (origin : Origin) (entries : List (String × Draft))
  /-- Tables that share one header in double brackets, each with its entries. -/
  | tables (elements : List (List (String × Draft)))
deriving Repr

namespace Draft

/-- The entries of a table that is being read. -/
abbrev Entries := List (String × Draft)

def lookup? (entries : Entries) (key : String) : Option Draft :=
  (entries.find? (·.1 == key)).map (·.2)

/-- Puts a draft under a key, in the place of the one that is there. -/
def set (entries : Entries) (key : String) (draft : Draft) : Entries :=
  if (lookup? entries key).isSome then
    entries.map fun entry => if entry.1 = key then (key, draft) else entry
  else entries ++ [(key, draft)]

/-- Adds a value under a dotted key, `origin` being that of the table with the entries. Tables on
the way are made as needed and must not have a header; a value may join a table that is not the
first only if dotted keys made it. -/
def insert? (value : Toml) (key : String) : (path : List String) → (inFirst : Bool) → Origin →
    Entries → Option Entries
  | [], inFirst, origin, entries =>
    if (inFirst || origin = .dotted) && (lookup? entries key).isNone then
      some (entries ++ [(key, .value value)])
    else none
  | step :: path, _, _, entries =>
    match lookup? entries step with
    | none =>
      (insert? value key path false .dotted []).map fun inner =>
        set entries step (.table .dotted inner)
    | some (.table .header _) => none
    | some (.table origin inner) =>
      (insert? value key path false origin inner).map fun inner =>
        set entries step (.table origin inner)
    | some (.tables elements) =>
      match elements.getLast? with
      | none => none
      | some last =>
        (insert? value key path false .header last).map fun last =>
          set entries step (.tables (elements.dropLast ++ [last]))
    | some (.value _) => none

/-- Changes the entries of the table at a path of headers. Tables on the way are made as needed; of
several tables under one name the last is meant. -/
def modify? (change : Entries → Option Entries) : List String → Entries → Option Entries
  | [], entries => change entries
  | step :: path, entries =>
    match lookup? entries step with
    | none => (modify? change path []).map fun inner => set entries step (.table .above inner)
    | some (.table origin inner) =>
      (modify? change path inner).map fun inner => set entries step (.table origin inner)
    | some (.tables elements) =>
      match elements.getLast? with
      | none => none
      | some last =>
        (modify? change path last).map fun last =>
          set entries step (.tables (elements.dropLast ++ [last]))
    | some (.value _) => none

/-- Gives a table its header: it is new, or was only named above other headers. -/
def openTable? (key : String) (entries : Entries) : Option Entries :=
  match lookup? entries key with
  | none => some (set entries key (.table .header []))
  | some (.table .above inner) => some (set entries key (.table .header inner))
  | _ => none

/-- Adds an empty table under a header in double brackets. -/
def openElement? (key : String) (entries : Entries) : Option Entries :=
  match lookup? entries key with
  | none => some (set entries key (.tables [[]]))
  | some (.tables elements) => some (set entries key (.tables (elements ++ [[]])))
  | _ => none

mutual

def finish : Draft → Toml
  | value v => v
  | table _ entries => .table (finishEntries entries)
  | tables elements => .array (finishElements elements)

def finishEntries : Entries → List (String × Toml)
  | [] => []
  | (key, draft) :: rest => (key, draft.finish) :: finishEntries rest

def finishElements : List Entries → List Toml
  | [] => []
  | entries :: rest => .table (finishEntries entries) :: finishElements rest

end

end Draft

end Crawlability.Toml
