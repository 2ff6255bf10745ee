import Crawlability.Robots.Access
import Mathlib.Data.List.Basic

/-!
The longest match, said without the search that finds it. `FirstLongest` places the deciding rule
among the rules of its group: what comes before it is shorter, what comes after is not longer.
`Selects` places the group in the document. The search keeps the best rule so far, and what it
keeps is the first of the longest in the part that it has read.

The rules that compete have prefixes of one text as their paths. Hence every size that adds up over
texts compares them alike, whether it counts characters or octets.
-/
namespace Crawlability.Robots

/-- A measure of texts that adds up and is positive except on the empty text. -/
structure IsSize (size : String → Nat) : Prop where
  append : ∀ s t, size (s ++ t) = size s + size t
  eq_empty : ∀ s, size s = 0 → s = ""

theorem isSize_length : IsSize String.length where
  append s t := String.length_append s t
  eq_empty s h := by simpa using h

theorem isSize_utf8ByteSize : IsSize String.utf8ByteSize where
  append _ _ := String.utf8ByteSize_append
  eq_empty s h := by simpa using h

namespace Rule

/-- The path is not empty and the requested path begins with it. -/
def Matches (r : Rule) (path : String) : Prop := r.path ≠ "" ∧ r.path.toList <+: path.toList

theorem appliesTo_iff (r : Rule) (path : String) : r.appliesTo path = true ↔ r.Matches path := by
  simp [appliesTo, Matches]

end Rule

private theorem IsSize.le_iff_of_prefix (size : String → Nat) (hsize : IsSize size) (s t : String)
    (h : s.toList <+: t.toList) : size s ≤ size t ∧ (size t ≤ size s ↔ t = s) := by
  obtain ⟨rest, hrest⟩ := h
  have ht : t = s ++ String.ofList rest := by
    apply String.toList_inj.mp
    rw [String.toList_append, String.toList_ofList, hrest]
  have hsum : size t = size s + size (String.ofList rest) := by rw [ht, hsize.append]
  refine ⟨by omega, ?_, ?_⟩
  · intro hle
    have hzero : size (String.ofList rest) = 0 := by omega
    rw [ht, hsize.eq_empty _ hzero, String.append_empty]
  · intro heq
    exact Nat.le_of_eq (congrArg size heq)

/-- Of two beginnings of one text, every size finds the same one longer. -/
theorem IsSize.le_iff_length_le (size : String → Nat) (hsize : IsSize size) (s t path : String)
    (hs : s.toList <+: path.toList) (ht : t.toList <+: path.toList) :
    size s ≤ size t ↔ s.length ≤ t.length := by
  rcases List.prefix_or_prefix_of_prefix hs ht with h | h
  · have h₁ := (IsSize.le_iff_of_prefix size hsize s t h).1
    have h₂ := (IsSize.le_iff_of_prefix String.length isSize_length s t h).1
    exact ⟨fun _ => h₂, fun _ => h₁⟩
  · have h₁ := (IsSize.le_iff_of_prefix size hsize t s h).2
    have h₂ := (IsSize.le_iff_of_prefix String.length isSize_length t s h).2
    rw [h₁, h₂]

/-- The rule matches, every matching rule before it has a shorter path, and no matching rule after
it has a longer one. -/
def FirstLongest (size : String → Nat) (rules : List Rule) (path : String) (r : Rule) : Prop :=
  ∃ before after, rules = before ++ r :: after ∧ r.Matches path ∧
    (∀ s ∈ before, s.Matches path → size s.path < size r.path) ∧
    ∀ s ∈ after, s.Matches path → size s.path ≤ size r.path

namespace FirstLongest

theorem iff_length (size : String → Nat) (hsize : IsSize size) (rules : List Rule) (path : String)
    (r : Rule) : FirstLongest size rules path r ↔ FirstLongest String.length rules path r := by
  have hle : ∀ s t : Rule, s.Matches path → t.Matches path →
      (size s.path ≤ size t.path ↔ s.path.length ≤ t.path.length) := by
    intro s t hs ht
    exact IsSize.le_iff_length_le size hsize s.path t.path path hs.2 ht.2
  have hlt : ∀ s t : Rule, s.Matches path → t.Matches path →
      (size s.path < size t.path ↔ s.path.length < t.path.length) := by
    intro s t hs ht
    rw [← Nat.not_le, ← Nat.not_le, hle t s ht hs]
  constructor
  · rintro ⟨before, after, heq, hr, hbefore, hafter⟩
    exact ⟨before, after, heq, hr, fun s hs hm => (hlt s r hm hr).mp (hbefore s hs hm),
      fun s hs hm => (hle s r hm hr).mp (hafter s hs hm)⟩
  · rintro ⟨before, after, heq, hr, hbefore, hafter⟩
    exact ⟨before, after, heq, hr, fun s hs hm => (hlt s r hm hr).mpr (hbefore s hs hm),
      fun s hs hm => (hle s r hm hr).mpr (hafter s hs hm)⟩

/-- A list of rules has at most one first of its longest. -/
theorem unique (size : String → Nat) (rules : List Rule) (path : String) (r r' : Rule)
    (h : FirstLongest size rules path r) (h' : FirstLongest size rules path r') : r = r' := by
  obtain ⟨before, after, heq, hr, hbefore, hafter⟩ := h
  obtain ⟨before', after', heq', hr', hbefore', hafter'⟩ := h'
  have hsplit := heq.symm.trans heq'
  -- Two places in one list: either they agree, or the later rule is both longer and not longer.
  rcases List.append_eq_append_iff.mp hsplit with ⟨mid, hpre, hpost⟩ | ⟨mid, hpre, hpost⟩
  · cases mid with
    | nil => exact (List.cons.inj hpost).1
    | cons m mid =>
      obtain ⟨rfl, hrest⟩ := List.cons.inj hpost
      have hlt := hbefore' r (by simp [hpre]) hr
      have hle := hafter r' (by simp [hrest]) hr'
      omega
  · cases mid with
    | nil => exact (List.cons.inj hpost).1.symm
    | cons m mid =>
      obtain ⟨rfl, hrest⟩ := List.cons.inj hpost
      have hlt := hbefore r' (by simp [hpre]) hr'
      have hle := hafter' r (by simp [hrest]) hr
      omega

end FirstLongest

/-- What the search has found in the rules that it has read. -/
def Best (path : String) (read : List Rule) : Option Rule → Prop
  | none => ∀ r ∈ read, ¬ r.Matches path
  | some r => FirstLongest String.length read path r

/-- One step of the search in the list of rules. -/
def Rule.pick (path : String) (best : Option Rule) (r : Rule) : Option Rule :=
  if r.appliesTo path then some (Rule.better best r) else best

namespace Best

theorem pick_of_not_matches (path : String) (read : List Rule) (best : Option Rule) (r : Rule)
    (h : Best path read best) (hr : ¬ r.Matches path) : Best path (read ++ [r]) best := by
  cases best with
  | none =>
    intro s hs
    rcases List.mem_append.mp hs with hs | hs
    · exact h s hs
    · rw [List.mem_singleton.mp hs]
      exact hr
  | some b =>
    obtain ⟨before, after, heq, hb, hbefore, hafter⟩ := h
    refine ⟨before, after ++ [r], by simp [heq], hb, hbefore, ?_⟩
    intro s hs hm
    rcases List.mem_append.mp hs with hs | hs
    · exact hafter s hs hm
    · rw [List.mem_singleton.mp hs] at hm
      exact absurd hm hr

theorem pick_of_matches (path : String) (read : List Rule) (best : Option Rule) (r : Rule)
    (h : Best path read best) (hr : r.Matches path) :
    Best path (read ++ [r]) (some (Rule.better best r)) := by
  cases best with
  | none => exact ⟨read, [], rfl, hr, fun s hs hm => absurd hm (h s hs), by simp⟩
  | some b =>
    obtain ⟨before, after, heq, hb, hbefore, hafter⟩ := h
    by_cases hle : r.path.length ≤ b.path.length
    · have hkeep : Rule.better (some b) r = b := by simp [Rule.better, hle]
      rw [hkeep]
      refine ⟨before, after ++ [r], by simp [heq], hb, hbefore, ?_⟩
      intro s hs hm
      rcases List.mem_append.mp hs with hs | hs
      · exact hafter s hs hm
      · rw [List.mem_singleton.mp hs]
        exact hle
    · -- A longer rule takes over: all that was read is now before it, and shorter than it.
      have htake : Rule.better (some b) r = r := by simp [Rule.better, hle]
      rw [htake]
      refine ⟨read, [], rfl, hr, ?_, by simp⟩
      intro s hs hm
      rw [heq] at hs
      rcases List.mem_append.mp hs with hs | hs
      · have hlt := hbefore s hs hm
        omega
      · rcases List.mem_cons.mp hs with rfl | hs
        · omega
        · have hsb := hafter s hs hm
          omega

theorem step (path : String) (read : List Rule) (best : Option Rule) (r : Rule)
    (h : Best path read best) : Best path (read ++ [r]) (Rule.pick path best r) := by
  by_cases hr : r.Matches path
  · rw [Rule.pick, if_pos ((r.appliesTo_iff path).mpr hr)]
    exact pick_of_matches path read best r h hr
  · rw [Rule.pick, if_neg (fun ha => hr ((r.appliesTo_iff path).mp ha))]
    exact pick_of_not_matches path read best r h hr

theorem run (path : String) (read rest : List Rule) (best : Option Rule)
    (h : Best path read best) : Best path (read ++ rest) (rest.foldl (Rule.pick path) best) := by
  induction rest generalizing read best with
  | nil => simpa using h
  | cons r rest ih =>
    have hnext := ih (read ++ [r]) (Rule.pick path best r) (step path read best r h)
    simpa using hnext

end Best

namespace Group

theorem best_deciding? (g : Group) (path : String) : Best path g.rules (g.deciding? path) := by
  exact Best.run path [] g.rules none (by simp [Best])

theorem deciding?_eq_some_iff (g : Group) (path : String) (r : Rule) :
    g.deciding? path = some r ↔ FirstLongest String.length g.rules path r := by
  have hbest := g.best_deciding? path
  constructor
  · intro h
    rwa [h] at hbest
  · intro hr
    cases h : g.deciding? path with
    | none =>
      rw [h] at hbest
      obtain ⟨before, after, heq, hm, _⟩ := hr
      exact absurd hm (hbest r (by simp [heq]))
    | some b =>
      rw [h] at hbest
      rw [FirstLongest.unique String.length g.rules path b r hbest hr]

/-- The rule that decides on the path, paths being compared by `size`, disallows it. -/
def Blocks (size : String → Nat) (g : Group) (path : String) : Prop :=
  ∃ r, FirstLongest size g.rules path r ∧ r.directive = .disallow

theorem blocks_iff_length (size : String → Nat) (hsize : IsSize size) (g : Group) (path : String) :
    g.Blocks size path ↔ g.Blocks String.length path := by
  simp only [Blocks, FirstLongest.iff_length size hsize]

theorem blocks_iff_deciding? (g : Group) (path : String) :
    g.Blocks String.length path ↔ ∃ r, g.deciding? path = some r ∧ r.directive = .disallow := by
  simp only [Blocks, deciding?_eq_some_iff]

end Group

namespace Document

/-- The group is the first of the document that has an agent of this name. -/
def FirstNaming (d : Document) (name : String) (g : Group) : Prop :=
  ∃ before after, d.groups = before ++ g :: after ∧ name ∈ g.agents ∧ ∀ h ∈ before, name ∉ h.agents

/-- The group is the first that names the agent, or the first that names `*` when none names it. -/
def Selects (d : Document) (agent : String) (g : Group) : Prop :=
  d.FirstNaming (Text.lowercase agent) g ∨
    (∀ h ∈ d.groups, Text.lowercase agent ∉ h.agents) ∧ d.FirstNaming "*" g

/-- What the selected group says, paths being compared by `size`. -/
def Ruling (size : String → Nat) (d : Document) (agent path : String) : Access → Prop
  | .unknown => ∀ g, ¬ d.Selects agent g
  | .blocked => ∃ g, d.Selects agent g ∧ g.Blocks size path
  | .allowed => ∃ g, d.Selects agent g ∧ ¬ g.Blocks size path

theorem find?_names_eq_some_iff (d : Document) (name : String) (g : Group) :
    d.groups.find? (·.names name) = some g ↔ d.FirstNaming name g := by
  rw [List.find?_eq_some_iff_append]
  simp only [Group.names, List.contains_eq_mem, decide_eq_true_eq, Bool.not_eq_true',
    decide_eq_false_iff_not, FirstNaming]
  constructor
  · rintro ⟨hname, before, after, heq, hbefore⟩
    exact ⟨before, after, heq, hname, hbefore⟩
  · rintro ⟨before, after, heq, hname, hbefore⟩
    exact ⟨hname, before, after, heq, hbefore⟩

theorem find?_names_eq_none_iff (d : Document) (name : String) :
    d.groups.find? (·.names name) = none ↔ ∀ h ∈ d.groups, name ∉ h.agents := by
  simp [Group.names]

theorem groupFor?_eq_some_iff (d : Document) (agent : String) (g : Group) :
    d.groupFor? agent = some g ↔ d.Selects agent g := by
  rw [groupFor?, Option.or_eq_some_iff, find?_names_eq_some_iff, find?_names_eq_some_iff,
    find?_names_eq_none_iff, Selects]

theorem evaluate_eq_unknown_iff (d : Document) (agent path : String) :
    d.evaluate agent path = .unknown ↔ d.groupFor? agent = none := by
  unfold evaluate
  split
  · simp [*]
  · split <;> simp [*]

theorem evaluate_eq_blocked_iff (d : Document) (agent path : String) :
    d.evaluate agent path = .blocked ↔ ∃ g, d.groupFor? agent = some g ∧
      ∃ r, g.deciding? path = some r ∧ r.directive = .disallow := by
  unfold evaluate
  split
  · simp [*]
  · split <;> simp [*]

theorem evaluate_eq_allowed_iff (d : Document) (agent path : String) :
    d.evaluate agent path = .allowed ↔ ∃ g, d.groupFor? agent = some g ∧
      ¬ ∃ r, g.deciding? path = some r ∧ r.directive = .disallow := by
  unfold evaluate
  split
  · simp [*]
  · split <;> simp [*]

theorem evaluate_eq_iff_ruling_length (d : Document) (agent path : String) (access : Access) :
    d.evaluate agent path = access ↔ d.Ruling String.length agent path access := by
  cases access with
  | allowed =>
    simp only [evaluate_eq_allowed_iff, Ruling, groupFor?_eq_some_iff, Group.blocks_iff_deciding?]
  | blocked =>
    simp only [evaluate_eq_blocked_iff, Ruling, groupFor?_eq_some_iff, Group.blocks_iff_deciding?]
  | unknown =>
    simp only [evaluate_eq_unknown_iff, Ruling, Option.eq_none_iff_forall_ne_some, ne_eq,
      groupFor?_eq_some_iff]

theorem ruling_iff_length (size : String → Nat) (hsize : IsSize size) (d : Document)
    (agent path : String) (access : Access) :
    d.Ruling size agent path access ↔ d.Ruling String.length agent path access := by
  cases access with
  | allowed => simp only [Ruling, Group.blocks_iff_length size hsize]
  | blocked => simp only [Ruling, Group.blocks_iff_length size hsize]
  | unknown => rfl

/-- The decision is that of the first of the longest matching rules in the selected group, and it
is the same whether the length of a path is counted in characters or in octets. -/
theorem evaluate_eq_iff_ruling (d : Document) (agent path : String) (access : Access) :
    (d.evaluate agent path = access ↔ d.Ruling String.length agent path access) ∧
      (d.evaluate agent path = access ↔ d.Ruling String.utf8ByteSize agent path access) := by
  have hlength := evaluate_eq_iff_ruling_length d agent path access
  have hoctets := ruling_iff_length String.utf8ByteSize isSize_utf8ByteSize d agent path access
  exact ⟨hlength, hlength.trans hoctets.symm⟩

end Document

end Crawlability.Robots
