import Crawlability.Proofs.Robots.Canonical
import Crawlability.Proofs.Robots.RuleChanges
import Crawlability.Robots.Roster

/-!
What a robots file says of the root of a site. Only a rule whose path is the root itself can match
there, so the longest match comes to the first rule of that path, and rules of all other paths might
as well not be in the file.
-/
namespace Crawlability.Robots

theorem Rule.matches_root_iff (r : Rule) : r.Matches "/" ↔ r.path = "/" := by
  constructor
  · rintro ⟨hne, hbegins⟩
    have hle : r.path.toList.length ≤ "/".toList.length := hbegins.length_le
    have hone : "/".toList.length = 1 := rfl
    have hpos : r.path.toList.length ≠ 0 := by simpa using hne
    exact String.toList_inj.mp (hbegins.eq_of_length (by omega))
  · intro hpath
    rw [Matches, hpath]
    exact ⟨by simp, List.prefix_rfl⟩

namespace Group

/-- The first rule of the root forbids it. -/
def BlocksRoot (g : Group) : Prop :=
  ∃ before after, g.rules = before ++ ⟨.disallow, "/"⟩ :: after ∧ ∀ s ∈ before, s.path ≠ "/"

theorem deciding?_root (g : Group) : g.deciding? "/" = g.ruleAt? "/" := by
  apply Option.ext
  intro r
  rw [deciding?_eq_some_iff_ruleAt?, r.matches_root_iff]
  constructor
  · rintro ⟨hpath, hfirst, -⟩
    rwa [hpath] at hfirst
  · intro hfirst
    obtain ⟨-, hpath⟩ := g.mem_of_ruleAt? "/" r hfirst
    refine ⟨hpath, by rwa [hpath], ?_⟩
    intro s _ hs
    rw [hpath, s.matches_root_iff.mp hs]

theorem blocksRoot_iff (g : Group) :
    g.BlocksRoot ↔ ∃ r, g.deciding? "/" = some r ∧ r.directive = .disallow := by
  simp only [deciding?_root, ruleAt?, List.find?_eq_some_iff_append, beq_iff_eq, Bool.not_eq_true',
    beq_eq_false_iff_ne, BlocksRoot]
  constructor
  · rintro ⟨before, after, hrules, hbefore⟩
    exact ⟨⟨.disallow, "/"⟩, ⟨rfl, before, after, hrules, hbefore⟩, rfl⟩
  · rintro ⟨⟨directive, path⟩, ⟨hpath, before, after, hrules, hbefore⟩, hdirective⟩
    obtain rfl : path = "/" := hpath
    obtain rfl : directive = .disallow := hdirective
    exact ⟨before, after, hrules, hbefore⟩

/-- The group without its rules of other paths. -/
def atRoot (g : Group) : Group := { g with rules := g.rules.filter (·.path == "/") }

theorem access_atRoot (g : Group) : g.atRoot.access "/" = g.access "/" := by
  have hfirst : g.atRoot.ruleAt? "/" = g.ruleAt? "/" := by
    rw [ruleAt?, ruleAt?, atRoot, List.find?_filter]
    simp only [and_self, Bool.decide_eq_true]
  rw [access, access, deciding?_root, deciding?_root, hfirst]

end Group

namespace Document

/-- The document without the rules of other paths than the root. -/
def atRoot (d : Document) : Document := ⟨d.groups.map Group.atRoot⟩

theorem groupFor?_atRoot (d : Document) (agent : String) :
    d.atRoot.groupFor? agent = (d.groupFor? agent).map Group.atRoot := by
  have hnames : ∀ name, (Group.names · name) ∘ Group.atRoot = (Group.names · name) :=
    fun name => rfl
  rw [groupFor?, groupFor?, atRoot, List.find?_map, List.find?_map, hnames, hnames, Option.map_or]

theorem evaluate_atRoot (d : Document) (agent : String) :
    d.atRoot.evaluate agent "/" = d.evaluate agent "/" := by
  rw [evaluate_eq_elim, evaluate_eq_elim, groupFor?_atRoot]
  cases d.groupFor? agent with
  | none => rfl
  | some g => exact g.access_atRoot

theorem summary_atRoot (d : Document) : d.atRoot.summary = d.summary := by
  rw [summary, summary]
  apply List.map_congr_left
  intro agent _
  rw [evaluate_atRoot]

theorem evaluate_root_eq_blocked_iff (d : Document) (agent : String) :
    d.evaluate agent "/" = .blocked ↔ ∃ g, d.Selects agent g ∧ g.BlocksRoot := by
  simp only [evaluate_eq_blocked_iff, groupFor?_eq_some_iff, Group.blocksRoot_iff]

/-- A text leaves unknown whom none of its groups names, in any case, if there is no group
for all either. -/
theorem evaluate_parse_eq_unknown_iff_names (text agent path : String) :
    (parse text).evaluate agent path = .unknown ↔ ∀ g ∈ (parse text).groups, ∀ name ∈ g.agents,
      Text.lowercase name ≠ Text.lowercase agent ∧ name ≠ "*" := by
  rw [evaluate_eq_unknown_iff, groupFor?, Option.or_eq_none_iff, find?_names_eq_none_iff,
    find?_names_eq_none_iff]
  have hlower : ∀ g ∈ (parse text).groups, ∀ name ∈ g.agents, Text.lowercase name = name :=
    fun g hg name hname => ((isCanonical_parse text).agents g hg name hname).2
  constructor
  · rintro ⟨hown, hall⟩ g hg name hname
    rw [hlower g hg name hname]
    refine ⟨?_, ?_⟩
    · rintro rfl
      exact hown g hg hname
    · rintro rfl
      exact hall g hg hname
  · intro h
    refine ⟨?_, ?_⟩
    · intro g hg hname
      exact (h g hg _ hname).1 (Text.lowercase_lowercase agent)
    · intro g hg hname
      exact (h g hg _ hname).2 rfl

end Document

end Crawlability.Robots
