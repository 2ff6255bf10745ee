import Crawlability.Proofs.Json.Numbers
import Crawlability.Proofs.Json.Quoted

/-!
Values, read back. The compact text of a value is read as far as it goes, as the tree of the value:
this holds of what has no parts, and it holds of an array or an object if it holds of the items or
the values of the members. So a text that is made from a value spells this value, provided that the
value is not nested too deeply and holds no number that is too large.
-/
namespace Crawlability.Json

/-- A value that can be read, with at most `depth` containers inside one another. -/
inductive IsReadable : Nat → Json → Prop
  | null (depth : Nat) : IsReadable depth .null
  | bool (depth : Nat) (b : Bool) : IsReadable depth (.bool b)
  | number (depth : Nat) (n : Number) (hspelt : n.IsSpelt) (hfinite : n.isFinite = true) :
      IsReadable depth (.number n)
  | string (depth : Nat) (s : String) : IsReadable depth (.string s)
  | array (depth : Nat) (items : List Json) (h : ∀ item ∈ items, IsReadable depth item) :
      IsReadable (depth + 1) (.array items)
  | object (depth : Nat) (members : List (String × Json))
      (h : ∀ member ∈ members, IsReadable depth member.2) : IsReadable (depth + 1) (.object members)

theorem isReadable_array_map {α : Type} (spell : α → Json) (depth : Nat)
    (h : ∀ a, IsReadable depth (spell a)) (list : List α) :
    IsReadable (depth + 1) (.array (list.map spell)) := by
  refine .array depth _ fun item hitem => ?_
  obtain ⟨a, -, rfl⟩ := List.mem_map.mp hitem
  exact h a

mutual

/-- The tree of a value. -/
def tree : Json → Tree
  | null => .null
  | bool b => .bool b
  | number n => .number n
  | string s => .string (some s)
  | array items => .array (trees items)
  | object members => .object (memberTrees members)

def trees : List Json → List Tree
  | [] => []
  | item :: rest => item.tree :: trees rest

def memberTrees : List (String × Json) → List (Option String × Tree)
  | [] => []
  | (name, value) :: rest => (some name, value.tree) :: memberTrees rest

end

theorem compactItems_cons (item : Json) (rest : List Json) : compactItems (item :: rest) =
    item.compactChars ++ if rest = [] then [']'] else ',' :: compactItems rest := by
  cases rest with
  | nil => rfl
  | cons next rest => simp [compactItems]

theorem compactMembers_cons (name : String) (value : Json) (rest : List (String × Json)) :
    compactMembers ((name, value) :: rest) = quote name ++ ':' :: (value.compactChars ++
      if rest = [] then ['\x7d'] else ',' :: compactMembers rest) := by
  cases rest with
  | nil => simp [compactMembers]
  | cons next rest => simp [compactMembers]

/-- A value begins with a character that neither is a blank nor closes an array. -/
theorem exists_compactChars_eq (j : Json) : ∃ c s, j.compactChars = c :: s ∧
    Tree.isSpace (some c) = false ∧ c ≠ ']' := by
  cases j with
  | null => exact ⟨_, _, rfl, by decide, by decide⟩
  | bool b => cases b <;> exact ⟨_, _, rfl, by decide, by decide⟩
  | number n =>
    obtain ⟨c, s, htext, hc⟩ := n.exists_text_eq
    have hother : Tree.isSpace (some c) = false ∧ c ≠ ']' := by
      have hne := Number.ne_of_begins c hc [' ', '\t', '\n', '\r', ']'] (by decide)
      simp only [List.forall_mem_cons] at hne
      simp [Tree.isSpace, hne]
    exact ⟨c, s, htext, hother⟩
  | string s => exact ⟨_, _, rfl, by decide, by decide⟩
  | array items => exact ⟨_, _, by rw [compactChars], by decide, by decide⟩
  | object members => exact ⟨_, _, by rw [compactChars], by decide, by decide⟩

/-- What may stand behind a value: the end of the text, or what ends an item or a member. -/
def EndsValue (s : Tree.Input) : Prop :=
  ∀ c? ∈ s.head?, c? = some ',' ∨ c? = some ']' ∨ c? = some '\x7d'

theorem EndsValue.endsNumber {s : Tree.Input} (h : EndsValue s) : Tree.EndsNumber s := by
  cases s with
  | nil => exact ⟨by rintro _ ⟨⟩, by simp, by simp, by simp⟩
  | cons c? s =>
    have hc := h c? rfl
    refine ⟨?_, ?_, ?_, ?_⟩
    · rintro _ ⟨⟩
      rcases hc with rfl | rfl | rfl <;> decide
    all_goals rcases hc with rfl | rfl | rfl <;> simp

theorem endsValue_cons (c : Char) (s : Tree.Input) (h : c = ',' ∨ c = ']' ∨ c = '\x7d') :
    EndsValue (some c :: s) := by
  rintro _ ⟨⟩
  simpa using h

theorem skipSpace_cons (c : Char) (s : Tree.Input) (h : Tree.isSpace (some c) = false) :
    Tree.skipSpace (some c :: s) = some c :: s := by
  rw [Tree.skipSpace, List.dropWhile_cons_of_neg]
  simp [h]

/-! The first character of a value says what is read. -/

theorem read?_quote (steps : Nat) (s : Tree.Input) : Tree.read? (steps + 1) (some '"' :: s) =
    (Quoted.read s).map fun (pieces, rest) => (.string (Quoted.text? pieces), rest) := by
  rw [Tree.read?, skipSpace_cons _ _ (by decide)]
  rfl

theorem read?_number (steps : Nat) (c : Char) (s : Tree.Input) (hc : c.isDigit = true ∨ c = '-') :
    Tree.read? (steps + 1) (some c :: s) =
      (Tree.readNumber? (some c :: s)).map fun (n, rest) => (.number n, rest) := by
  have hne := Number.ne_of_begins c hc
    ['"', '[', '\x7b', 'n', 't', 'f', ' ', '\t', '\n', '\r'] (by decide)
  simp only [List.forall_mem_cons] at hne
  rw [Tree.read?, skipSpace_cons c s (by simp [Tree.isSpace, hne])]
  simp [hne]

theorem read?_array (steps : Nat) (c : Char) (s : Tree.Input)
    (hspace : Tree.isSpace (some c) = false) (hc : c ≠ ']') :
    Tree.read? (steps + 1) (some '[' :: some c :: s) =
      (Tree.readItems? steps (some c :: s)).map fun (items, rest) => (.array items, rest) := by
  rw [Tree.read?, skipSpace_cons _ _ (by decide)]
  simp [skipSpace_cons c s hspace, hc]

theorem read?_object (steps : Nat) (s : Tree.Input) :
    Tree.read? (steps + 1) (some '\x7b' :: some '"' :: s) =
      (Tree.readMembers? steps (some '"' :: s)).map fun (members, rest) =>
        (.object members, rest) := by
  rw [Tree.read?, skipSpace_cons _ _ (by decide)]
  simp [skipSpace_cons '"' s (by decide)]

theorem map_quote (s : String) (rest : Tree.Input) : (quote s).map some ++ rest =
    some '"' :: ((s.toList.flatMap Quoted.escape).map some ++ some '"' :: rest) := by
  simp [quote, Quoted.encode]

/-- The text of the value is read as its tree, as far as it goes. Two steps for each character are
enough. -/
def Reads (j : Json) : Prop := ∀ (steps : Nat) (rest : Tree.Input),
  2 * j.compactChars.length ≤ steps → EndsValue rest →
    Tree.read? steps (j.compactChars.map some ++ rest) = some (j.tree, rest)

/-- A text that is not empty leaves at least one step. -/
theorem exists_steps (j : Json) (steps : Nat) (h : 2 * j.compactChars.length ≤ steps) :
    ∃ k, steps = k + 1 := by
  obtain ⟨c, s, hchars, -⟩ := exists_compactChars_eq j
  rw [hchars, List.length_cons] at h
  exact Nat.exists_eq_add_one_of_ne_zero (by omega)

theorem reads_null : Reads .null := by
  intro steps rest hsteps _
  obtain ⟨k, rfl⟩ := exists_steps _ steps hsteps
  rfl

theorem reads_bool (b : Bool) : Reads (.bool b) := by
  intro steps rest hsteps _
  obtain ⟨k, rfl⟩ := exists_steps _ steps hsteps
  cases b with
  | true => rfl
  | false => rfl

theorem reads_number (n : Number) (hn : n.IsSpelt) : Reads (.number n) := by
  intro steps rest hsteps hrest
  obtain ⟨k, rfl⟩ := exists_steps _ steps hsteps
  obtain ⟨c, s, htext, hc⟩ := n.exists_text_eq
  have hread := Tree.readNumber?_text n hn rest hrest.endsNumber
  rw [compactChars]
  rw [htext, List.map_cons, List.cons_append] at hread ⊢
  rw [read?_number k c _ hc, hread]
  rfl

theorem reads_string (s : String) : Reads (.string s) := by
  intro steps rest hsteps _
  obtain ⟨k, rfl⟩ := exists_steps _ steps hsteps
  obtain ⟨pieces, htext, hread⟩ := Quoted.read_quote s rest
  rw [compactChars, map_quote, read?_quote]
  simp only [hread, Option.map_some, htext]
  rfl

theorem readItems?_compactItems (items : List Json) (hne : items ≠ [])
    (h : ∀ item ∈ items, Reads item) (steps : Nat) (rest : Tree.Input)
    (hsteps : 2 * (compactItems items).length ≤ steps) :
    Tree.readItems? steps ((compactItems items).map some ++ rest) = some (trees items, rest) := by
  induction items generalizing steps with
  | nil => exact absurd rfl hne
  | cons item others ih =>
    obtain ⟨hitem, hothers⟩ := List.forall_mem_cons.mp h
    rw [compactItems_cons] at hsteps ⊢
    rw [List.length_append] at hsteps
    obtain ⟨k, rfl⟩ := exists_steps item steps (by omega)
    rw [List.map_append, List.append_assoc, Tree.readItems?]
    by_cases hlast : others = []
    · subst hlast
      rw [if_pos rfl, List.length_singleton] at hsteps
      have hread := hitem k (some ']' :: rest) (by omega) (endsValue_cons ']' rest (by simp))
      rw [if_pos rfl, List.map_singleton, List.singleton_append]
      simp only [hread, skipSpace_cons ']' rest (by decide)]
      rfl
    · rw [if_neg hlast, List.length_cons] at hsteps
      have hread := hitem k (some ',' :: ((compactItems others).map some ++ rest)) (by omega)
        (endsValue_cons ',' _ (by simp))
      have hrest := ih hlast hothers k (by omega)
      rw [if_neg hlast, List.map_cons, List.cons_append]
      simp only [hread, skipSpace_cons ',' _ (by decide), hrest]
      rfl

theorem readMembers?_compactMembers (members : List (String × Json)) (hne : members ≠ [])
    (h : ∀ member ∈ members, Reads member.2) (steps : Nat) (rest : Tree.Input)
    (hsteps : 2 * (compactMembers members).length ≤ steps) :
    Tree.readMembers? steps ((compactMembers members).map some ++ rest) =
      some (memberTrees members, rest) := by
  induction members generalizing steps with
  | nil => exact absurd rfl hne
  | cons member others ih =>
    obtain ⟨name, value⟩ := member
    obtain ⟨hmember, hothers⟩ := List.forall_mem_cons.mp h
    have hvalue : Reads value := hmember
    rw [compactMembers_cons] at hsteps ⊢
    rw [List.length_append, List.length_cons, List.length_append] at hsteps
    obtain ⟨k, rfl⟩ := exists_steps value steps (by omega)
    rw [List.map_append, List.append_assoc, map_quote, List.map_cons, List.cons_append,
      List.map_append, List.append_assoc, Tree.readMembers?, skipSpace_cons '"' _ (by decide)]
    by_cases hlast : others = []
    · subst hlast
      rw [if_pos rfl, List.length_singleton] at hsteps
      rw [if_pos rfl, List.map_singleton, List.singleton_append]
      have hread := hvalue k (some '\x7d' :: rest) (by omega) (endsValue_cons '\x7d' rest (by simp))
      obtain ⟨pieces, htext, hname⟩ := Quoted.read_quote name
        (some ':' :: (value.compactChars.map some ++ some '\x7d' :: rest))
      simp only [hname, skipSpace_cons ':' _ (by decide), hread,
        skipSpace_cons '\x7d' rest (by decide), htext]
      rfl
    · rw [if_neg hlast, List.length_cons] at hsteps
      rw [if_neg hlast, List.map_cons, List.cons_append]
      have hread := hvalue k (some ',' :: ((compactMembers others).map some ++ rest)) (by omega)
        (endsValue_cons ',' _ (by simp))
      have hrest := ih hlast hothers k (by omega)
      obtain ⟨pieces, htext, hname⟩ := Quoted.read_quote name (some ':' ::
        (value.compactChars.map some ++ some ',' :: ((compactMembers others).map some ++ rest)))
      simp only [hname, skipSpace_cons ':' _ (by decide), hread, skipSpace_cons ',' _ (by decide),
        htext, hrest]
      rfl

theorem reads_array (items : List Json) (h : ∀ item ∈ items, Reads item) :
    Reads (.array items) := by
  intro steps rest hsteps _
  rw [compactChars, List.length_cons] at hsteps
  obtain ⟨k, rfl⟩ := Nat.exists_eq_add_one_of_ne_zero (show steps ≠ 0 by omega)
  rw [compactChars, List.map_cons, List.cons_append]
  cases items with
  | nil => rfl
  | cons item others =>
    have hread := readItems?_compactItems (item :: others) (by simp) h k rest (by omega)
    obtain ⟨c, s, hchars, hspace, hclose⟩ := exists_compactChars_eq item
    rw [compactItems_cons, hchars, List.cons_append, List.map_cons, List.cons_append] at hread ⊢
    rw [read?_array k c _ hspace hclose, hread]
    rfl

theorem reads_object (members : List (String × Json)) (h : ∀ member ∈ members, Reads member.2) :
    Reads (.object members) := by
  intro steps rest hsteps _
  rw [compactChars, List.length_cons] at hsteps
  obtain ⟨k, rfl⟩ := Nat.exists_eq_add_one_of_ne_zero (show steps ≠ 0 by omega)
  rw [compactChars, List.map_cons, List.cons_append]
  cases members with
  | nil => rfl
  | cons member others =>
    have hread := readMembers?_compactMembers (member :: others) (by simp) h k rest (by omega)
    rw [compactMembers_cons, List.map_append, List.append_assoc, map_quote] at hread ⊢
    rw [read?_object, hread]
    rfl

theorem IsReadable.reads {depth : Nat} {j : Json} (h : IsReadable depth j) : Reads j := by
  induction h with
  | null => exact reads_null
  | bool _ b => exact reads_bool b
  | number _ n hspelt _ => exact reads_number n hspelt
  | string _ s => exact reads_string s
  | array _ items _ ih => exact reads_array items ih
  | object _ members _ ih => exact reads_object members ih

/-- The compact text of a value is all read, as the tree of the value. -/
theorem ofText?_compact {depth : Nat} (j : Json) (h : IsReadable depth j) :
    Tree.ofText? j.compact = some j.tree := by
  have hread := h.reads (2 * j.compactChars.length + 2) [] (by omega) (by rintro _ ⟨⟩)
  rw [List.append_nil] at hread
  rw [Tree.ofText?, compact, String.toList_ofList, Tree.ofInput?, List.length_map, hread]
  rfl

theorem values?_trees (depth : Nat) (items : List Json)
    (h : ∀ item ∈ items, item.tree.value? depth = some item) :
    Tree.values? depth (trees items) = some items := by
  induction items with
  | nil => rfl
  | cons item others ih =>
    obtain ⟨hitem, hothers⟩ := List.forall_mem_cons.mp h
    rw [trees, Tree.values?, hitem, ih hothers]

theorem memberValues?_memberTrees (depth : Nat) (members : List (String × Json))
    (h : ∀ member ∈ members, member.2.tree.value? depth = some member.2) :
    Tree.memberValues? depth (memberTrees members) = some members := by
  induction members with
  | nil => rfl
  | cons member others ih =>
    obtain ⟨name, value⟩ := member
    obtain ⟨hmember, hothers⟩ := List.forall_mem_cons.mp h
    have hvalue : value.tree.value? depth = some value := hmember
    rw [memberTrees, Tree.memberValues?, hvalue, ih hothers]

/-- No tree of a readable value is too deep, and no number in it too large. -/
theorem value?_tree {depth : Nat} {j : Json} (h : IsReadable depth j) :
    j.tree.value? depth = some j := by
  induction h with
  | null | bool | string => simp [tree, Tree.value?]
  | number _ n _ hfinite => simp [tree, Tree.value?, hfinite]
  | array depth items _ ih =>
    rw [tree, Tree.value?, values?_trees depth items ih, Option.map_some]
  | object depth members _ ih =>
    rw [tree, Tree.value?, memberValues?_memberTrees depth members ih, Option.map_some]

/-- A value is what its compact text spells. -/
theorem parse?_compact (j : Json) (h : IsReadable Tree.maxDepth j) :
    parse? j.compact = some j := by
  rw [parse?, ofText?_compact j h, Option.bind_some, value?_tree h]

end Crawlability.Json
