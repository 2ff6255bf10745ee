import Crawlability.Proofs.Robots.Selection
import Mathlib.Data.List.InsertIdx

/-!
What rearranging and adding rules does to decisions. A group decides by the first rule of each path:
the longest of the paths that match tells which path counts, and the first rule of that path what is
said. Two matching rules of equal length have one path, so the order of rules with different paths
plays no part, and where no two rules of a path differ it plays none at all.

A new rule is felt only where it becomes the first rule of the path that counts. There the answer is
the one that the new rule gives, and elsewhere it stays.
-/
namespace Crawlability.Robots

theorem Rule.path_eq_of_matches (r s : Rule) (path : String) (hr : r.Matches path)
    (hs : s.Matches path) (h : r.path.length = s.path.length) : r.path = s.path := by
  have hbegins := List.prefix_of_prefix_length_le hr.2 hs.2 (Nat.le_of_eq h)
  exact String.toList_inj.mp (hbegins.eq_of_length h)

theorem Rule.matches_congr (r s : Rule) (path : String) (h : r.path = s.path) :
    r.Matches path ↔ s.Matches path := by
  rw [Matches, Matches, h]

namespace Group

/-- The first rule of exactly this path. -/
def ruleAt? (g : Group) (p : String) : Option Rule := g.rules.find? (·.path == p)

theorem mem_of_ruleAt? (g : Group) (p : String) (r : Rule) (h : g.ruleAt? p = some r) :
    r ∈ g.rules ∧ r.path = p :=
  ⟨List.mem_of_find?_eq_some h, by simpa using List.find?_some h⟩

theorem exists_ruleAt? (g : Group) (s : Rule) (h : s ∈ g.rules) :
    ∃ r, g.ruleAt? s.path = some r := by
  apply Option.isSome_iff_exists.mp
  rw [ruleAt?, List.find?_isSome]
  exact ⟨s, h, by simp⟩

theorem deciding?_eq_none_iff (g : Group) (path : String) :
    g.deciding? path = none ↔ ∀ r ∈ g.rules, ¬ r.Matches path := by
  have hbest := g.best_deciding? path
  cases h : g.deciding? path with
  | none =>
    rw [h] at hbest
    exact iff_of_true rfl hbest
  | some b =>
    rw [h] at hbest
    obtain ⟨before, after, heq, hb, -⟩ := hbest
    refine iff_of_false (by simp) fun hnone => ?_
    exact hnone b (by simp [heq]) hb

/-- The rule that decides is the first one of the longest path that matches. -/
theorem deciding?_eq_some_iff_ruleAt? (g : Group) (path : String) (r : Rule) :
    g.deciding? path = some r ↔ r.Matches path ∧ g.ruleAt? r.path = some r ∧
      ∀ s ∈ g.rules, s.Matches path → s.path.length ≤ r.path.length := by
  rw [deciding?_eq_some_iff, ruleAt?, List.find?_eq_some_iff_append]
  simp only [beq_self_eq_true, true_and, Bool.not_eq_true', beq_eq_false_iff_ne]
  constructor
  · rintro ⟨before, after, heq, hr, hbefore, hafter⟩
    refine ⟨hr, ⟨before, after, heq, ?_⟩, ?_⟩
    · intro s hs hpath
      have hlt := hbefore s hs ((s.matches_congr r path hpath).mpr hr)
      rw [hpath] at hlt
      exact Nat.lt_irrefl _ hlt
    · intro s hs hm
      rw [heq] at hs
      rcases List.mem_append.mp hs with hs | hs
      · exact Nat.le_of_lt (hbefore s hs hm)
      · rcases List.mem_cons.mp hs with rfl | hs
        · exact Nat.le_refl _
        · exact hafter s hs hm
  · rintro ⟨hr, ⟨before, after, heq, hfirst⟩, hlongest⟩
    refine ⟨before, after, heq, hr, ?_, ?_⟩
    · intro s hs hm
      have hle := hlongest s (by simp [heq, hs]) hm
      -- A matching rule before it of the same length would have its path, and come first.
      have hne : s.path.length ≠ r.path.length :=
        fun h => hfirst s hs (s.path_eq_of_matches r path hm hr h)
      omega
    · intro s hs hm
      exact hlongest s (by simp [heq, hs]) hm

/-- Groups with the same first rules have matching rules of the same lengths. -/
theorem length_le_of_ruleAt?_eq (g h : Group)
    (hsame : ∀ p, p ≠ "" → g.ruleAt? p = h.ruleAt? p) (path : String) (n : Nat)
    (hbound : ∀ s ∈ g.rules, s.Matches path → s.path.length ≤ n) :
    ∀ s ∈ h.rules, s.Matches path → s.path.length ≤ n := by
  intro s hs hm
  obtain ⟨r, hr⟩ := h.exists_ruleAt? s hs
  rw [← hsame s.path hm.1] at hr
  obtain ⟨hmem, hpath⟩ := g.mem_of_ruleAt? s.path r hr
  rw [← hpath]
  exact hbound r hmem ((r.matches_congr s path hpath).mpr hm)

theorem deciding?_of_ruleAt?_eq (g h : Group) (hsame : ∀ p, p ≠ "" → g.ruleAt? p = h.ruleAt? p)
    (path : String) (r : Rule) (hr : g.deciding? path = some r) : h.deciding? path = some r := by
  rw [deciding?_eq_some_iff_ruleAt?] at hr ⊢
  obtain ⟨hm, hfirst, hlongest⟩ := hr
  refine ⟨hm, ?_, length_le_of_ruleAt?_eq g h hsame path _ hlongest⟩
  rw [← hsame r.path hm.1, hfirst]

/-- The first rules of the paths determine what the group says; the empty path does not count. -/
theorem access_congr (g h : Group) (hsame : ∀ p, p ≠ "" → g.ruleAt? p = h.ruleAt? p)
    (path : String) : g.access path = h.access path := by
  have hdeciding : g.deciding? path = h.deciding? path := by
    apply Option.ext
    intro r
    exact ⟨deciding?_of_ruleAt?_eq g h hsame path r,
      deciding?_of_ruleAt?_eq h g (fun p hp => (hsame p hp).symm) path r⟩
  rw [access, access, hdeciding]

/-! The order of rules. -/

/-- Rules of one path say the same, unless the path is empty. -/
def IsConsistent (g : Group) : Prop :=
  ∀ r ∈ g.rules, ∀ s ∈ g.rules, r.path = s.path → r.path ≠ "" → r.directive = s.directive

theorem ruleAt?_eq_some_iff_mem (g : Group) (hg : g.IsConsistent) (p : String) (hp : p ≠ "")
    (r : Rule) : g.ruleAt? p = some r ↔ r ∈ g.rules ∧ r.path = p := by
  constructor
  · exact g.mem_of_ruleAt? p r
  · rintro ⟨hr, rfl⟩
    obtain ⟨s, hs⟩ := g.exists_ruleAt? r hr
    obtain ⟨hmem, hpath⟩ := g.mem_of_ruleAt? r.path s hs
    have hdirective : s.directive = r.directive := hg s hmem r hr hpath (hpath ▸ hp)
    have heq : s = r := by
      cases s
      cases r
      simp_all
    rw [hs, heq]

theorem access_of_perm (g : Group) (hg : g.IsConsistent) (rules : List Rule)
    (hperm : rules.Perm g.rules) (path : String) :
    access { g with rules := rules } path = g.access path := by
  have hconsistent : IsConsistent { g with rules := rules } := by
    intro r hr s hs
    exact hg r (hperm.mem_iff.mp hr) s (hperm.mem_iff.mp hs)
  apply access_congr
  intro p hp
  apply Option.ext
  intro r
  rw [ruleAt?_eq_some_iff_mem _ hconsistent p hp, ruleAt?_eq_some_iff_mem g hg p hp,
    hperm.mem_iff]

/-- On its own path the first rule decides. -/
theorem access_cons_self (agents : List String) (r : Rule) (rest : List Rule) (h : r.path ≠ "") :
    access ⟨agents, r :: rest⟩ r.path = r.directive.access := by
  apply access_of_deciding?
  rw [deciding?_eq_some_iff_ruleAt?]
  refine ⟨⟨h, List.prefix_rfl⟩, by simp [ruleAt?], ?_⟩
  intro s _ hs
  exact hs.2.length_le

/-- Exactly the consistent groups keep what they say in every order of their rules. -/
theorem isConsistent_iff_access_perm (g : Group) : g.IsConsistent ↔ ∀ rules : List Rule,
    rules.Perm g.rules → ∀ path, access { g with rules := rules } path = g.access path := by
  constructor
  · intro hg rules hperm path
    exact g.access_of_perm hg rules hperm path
  · intro hkeeps r hr s hs hpath hne
    -- Either rule can be put first, and then it decides on the path of both.
    have hfirst : ∀ t ∈ g.rules, t.path ≠ "" → t.directive.access = g.access t.path := by
      intro t ht htne
      have hkeep := hkeeps (t :: g.rules.erase t) (List.perm_cons_erase ht).symm t.path
      rw [← hkeep]
      exact (access_cons_self g.agents t _ htne).symm
    have haccess : r.directive.access = s.directive.access := by
      rw [hfirst r hr hne, hfirst s hs (hpath ▸ hne), hpath]
    exact (Directive.access_inj _ _).mp haccess

/-! A new rule. -/

/-- The group with one more rule, put at this place among the others. -/
def insertRule (g : Group) (j : Nat) (r : Rule) : Group :=
  { g with rules := g.rules.insertIdx j r }

/-- The new rule is found first, or what was found before. -/
private theorem find?_insertIdx (q : Rule → Bool) (rules : List Rule) (j : Nat) (r : Rule) :
    (rules.insertIdx j r).find? q = rules.find? q ∨
      q r = true ∧ (rules.insertIdx j r).find? q = some r := by
  induction rules generalizing j with
  | nil =>
    cases j with
    | zero => by_cases hr : q r <;> simp [hr]
    | succ j => exact Or.inl rfl
  | cons s rules ih =>
    cases j with
    | zero => by_cases hr : q r <;> simp [hr]
    | succ j => by_cases hs : q s <;> simp [hs, ih j]

theorem ruleAt?_insertRule (g : Group) (j : Nat) (r : Rule) (p : String) :
    (g.insertRule j r).ruleAt? p = g.ruleAt? p ∨
      r.path = p ∧ (g.insertRule j r).ruleAt? p = some r := by
  have hfind := find?_insertIdx (·.path == p) g.rules j r
  rwa [beq_iff_eq] at hfind

/-- What the group says stays, or it is now what the new rule says of a path that it matches. -/
theorem access_insertRule (g : Group) (j : Nat) (r : Rule) (path : String) :
    (g.insertRule j r).access path = g.access path ∨
      r.Matches path ∧ (g.insertRule j r).access path = r.directive.access := by
  have hold : ∀ s ∈ g.rules, s ∈ (g.insertRule j r).rules :=
    fun s hs => List.subset_insertIdx g.rules j r hs
  cases hnew : (g.insertRule j r).deciding? path with
  | none =>
    have hnone : g.deciding? path = none := by
      rw [deciding?_eq_none_iff] at hnew ⊢
      exact fun s hs => hnew s (hold s hs)
    left
    rw [access_of_deciding?_eq_none _ _ hnew, access_of_deciding?_eq_none _ _ hnone]
  | some b =>
    obtain ⟨hb, hfirst, hlongest⟩ := (deciding?_eq_some_iff_ruleAt? _ _ _).mp hnew
    rw [access_of_deciding? _ _ _ hnew]
    rcases g.ruleAt?_insertRule j r b.path with hsame | ⟨hpath, hfound⟩
    · left
      -- The rule that decides is an old one, and it was the first of the longest before as well.
      have hbefore : g.deciding? path = some b := by
        rw [deciding?_eq_some_iff_ruleAt?]
        exact ⟨hb, hsame ▸ hfirst, fun s hs => hlongest s (hold s hs)⟩
      rw [access_of_deciding? _ _ _ hbefore]
    · right
      have hrb : r = b := Option.some.inj (hfound.symm.trans hfirst)
      exact ⟨hrb ▸ hb, by rw [hrb]⟩

end Group

namespace Document

/-- Where the rules of a path agree, their order does not matter: however the rules of a group are
rearranged, every agent is told the same of every path. -/
theorem evaluate_modifyRules_of_perm (d : Document) (i : Nat) (g : Group)
    (hg : d.groups[i]? = some g) (hconsistent : g.IsConsistent) (rules : List Rule)
    (hperm : rules.Perm g.rules) (agent path : String) :
    (d.modifyRules i fun _ => rules).evaluate agent path = d.evaluate agent path :=
  d.evaluate_modifyRules_congr agent path i _ g hg (g.access_of_perm hconsistent rules hperm path)

/-- Two rules change places, and the longer one still decides. -/
theorem evaluate_modifyRules_of_swapped_rules :
    let d : Document := ⟨[⟨["gptbot"], []⟩, ⟨["*"], [⟨.disallow, "/a"⟩, ⟨.allow, "/ab"⟩]⟩]⟩
    (d.modifyRules 1 fun _ => [⟨.allow, "/ab"⟩, ⟨.disallow, "/a"⟩]).evaluate "Bingbot" "/abc" =
        d.evaluate "Bingbot" "/abc" ∧ d.evaluate "Bingbot" "/abc" = .allowed := by
  intro d
  refine ⟨?_, by decide⟩
  apply d.evaluate_modifyRules_of_perm 1 ⟨["*"], [⟨.disallow, "/a"⟩, ⟨.allow, "/ab"⟩]⟩ rfl
  · simp [Group.IsConsistent]
  · exact List.Perm.swap ..

/-- The document with one more rule in the group at one place. -/
def insertRule (d : Document) (i j : Nat) (r : Rule) : Document :=
  d.modifyRules i fun rules => rules.insertIdx j r

/-- An answer stays, or the changed group speaks for the agent, the new rule matches the path, and
the answer is what that rule says. -/
theorem evaluate_insertRule_cases (d : Document) (i j : Nat) (r : Rule) (agent path : String) :
    (d.insertRule i j r).evaluate agent path = d.evaluate agent path ∨
      d.groupIndex? agent = some i ∧ r.Matches path ∧
        (d.insertRule i j r).evaluate agent path = r.directive.access := by
  by_cases hindex : d.groupIndex? agent = some i
  · have hg := List.getElem?_eq_getElem (d.lt_length_of_groupIndex? agent i hindex)
    rw [insertRule, d.evaluate_modifyRules_of_eq agent path i _ _ hg hindex,
      d.evaluate_of_groupIndex? agent path i _ hindex hg]
    rcases Group.access_insertRule _ j r path with hsame | ⟨hmatches, hgiven⟩
    · exact Or.inl hsame
    · exact Or.inr ⟨hindex, hmatches, hgiven⟩
  · exact Or.inl (d.evaluate_modifyRules_of_ne agent path i _ hindex)

/-- A new rule takes effect in its own direction only, for the agents that its group speaks for, and
on the paths that begin with its own. It never makes known what was unknown, nor the reverse. -/
theorem evaluate_insertRule (d : Document) (i j : Nat) (r : Rule) (agent path : String) :
    let d' := d.insertRule i j r
    (r.directive = .disallow → d.evaluate agent path = .blocked →
      d'.evaluate agent path = .blocked) ∧
    (r.directive = .allow → d.evaluate agent path = .allowed →
      d'.evaluate agent path = .allowed) ∧
    (d'.evaluate agent path = .unknown ↔ d.evaluate agent path = .unknown) ∧
    (d'.evaluate agent path ≠ d.evaluate agent path →
      d.groupIndex? agent = some i ∧ r.path ≠ "" ∧ r.path.toList <+: path.toList) := by
  intro d'
  refine ⟨?_, ?_, d.evaluate_modifyRules_eq_unknown_iff agent path i _, ?_⟩
  · intro hr hblocked
    rcases d.evaluate_insertRule_cases i j r agent path with hsame | ⟨-, -, hgiven⟩
    · exact hsame.trans hblocked
    · rw [hgiven, hr, Directive.access]
  · intro hr hallowed
    rcases d.evaluate_insertRule_cases i j r agent path with hsame | ⟨-, -, hgiven⟩
    · exact hsame.trans hallowed
    · rw [hgiven, hr, Directive.access]
  · intro hchanged
    rcases d.evaluate_insertRule_cases i j r agent path with hsame | ⟨hindex, hmatches, -⟩
    · exact absurd hsame hchanged
    · exact ⟨hindex, hmatches⟩

/-- A longer rule takes over on its paths. -/
example :
    let d : Document := ⟨[⟨["*"], [⟨.disallow, "/a"⟩]⟩]⟩
    d.evaluate "GPTBot" "/ab" = .blocked ∧
      (d.insertRule 0 1 ⟨.allow, "/ab"⟩).evaluate "GPTBot" "/ab" = .allowed := by decide

end Document

end Crawlability.Robots
