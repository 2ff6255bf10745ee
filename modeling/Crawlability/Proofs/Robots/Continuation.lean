import Crawlability.Proofs.Robots.Canonical
import Crawlability.Proofs.Robots.Selection

/-!
A robots file that is written on. Reading a text and then more lines is reading the text with its
last group left open: the groups before it are closed for good, and that one may still take in
entries at its ends. An agent is found in the first group that names it, and no group that comes
later, nor any name that is added to the last one, can be earlier than that. So the agents that a
text names keep their places in whatever it is continued to.
-/
namespace Crawlability.Robots

namespace Group

/-- The second group is the first one with more agents or more rules behind those that it has. Once
it has a rule, it takes in no agents. -/
structure Extends (g g' : Group) : Prop where
  agents : g.agents <+: g'.agents
  rules : g.rules <+: g'.rules
  closed : g.rules ≠ [] → g'.agents = g.agents

namespace Extends

theorem refl (g : Group) : g.Extends g := ⟨List.prefix_rfl, List.prefix_rfl, fun _ => rfl⟩

theorem trans (g h k : Group) (hgh : g.Extends h) (hhk : h.Extends k) : g.Extends k where
  agents := hgh.agents.trans hhk.agents
  rules := hgh.rules.trans hhk.rules
  closed hrules := by
    have hfilled : h.rules ≠ [] := fun hnil => hrules (List.prefix_nil.mp (hnil ▸ hgh.rules))
    rw [hhk.closed hfilled, hgh.closed hrules]

theorem addAgent (g : Group) (name : String) (h : g.rules = []) : g.Extends (g.addAgent name) where
  agents := List.prefix_append g.agents [name]
  rules := List.prefix_rfl
  closed hrules := absurd h hrules

theorem addRule (g : Group) (rule : Rule) (h : g.agents ≠ []) : g.Extends (g.addRule rule) where
  agents := by simp [Group.addRule, h]
  rules := List.prefix_append g.rules [rule]
  closed _ := by simp [Group.addRule, h]

theorem names (g g' : Group) (h : g.Extends g') (name : String) (hname : g.names name = true) :
    g'.names name = true := by
  rw [Group.names, List.contains_iff_mem] at hname ⊢
  exact h.agents.subset hname

end Extends

end Group

namespace Document

/-- The first of the groups that are still to be closed is the open one, with what it takes in. -/
theorem exists_groupsFrom_extends (current : Group) (es : List Entry) (h : current.agents ≠ []) :
    ∃ g more, groupsFrom current es = g :: more ∧ current.Extends g := by
  induction current, es, h using groupsFrom_induction with
  | nil current h => exact ⟨current, [], by simp [groupsFrom, h], Group.Extends.refl current⟩
  | join current name rest h hrules ih =>
    obtain ⟨g, more, hgroups, hextends⟩ := ih
    refine ⟨g, more, ?_, ?_⟩
    · rw [groupsFrom_agent_of_no_rules current name rest hrules, hgroups]
    · exact .trans _ _ _ (.addAgent current name hrules) hextends
  | turn current name rest h hrules ih =>
    exact ⟨current, _, groupsFrom_agent_of_rules current name rest h hrules, .refl current⟩
  | rule current r rest h ih =>
    obtain ⟨g, more, hgroups, hextends⟩ := ih
    exact ⟨g, more, by rw [groupsFrom, hgroups], .trans _ _ _ (.addRule current r h) hextends⟩

/-- After some entries all groups but the last are closed, and the last one is open. -/
theorem exists_groupsFrom_append (current : Group) (es : List Entry) (h : current.agents ≠ []) :
    ∃ init last, last.agents ≠ [] ∧ groupsFrom current es = init ++ [last] ∧
      ∀ es', groupsFrom current (es ++ es') = init ++ groupsFrom last es' := by
  induction current, es, h using groupsFrom_induction with
  | nil current h => exact ⟨[], current, h, by simp [groupsFrom, h], fun es' => rfl⟩
  | join current name rest h hrules ih =>
    obtain ⟨init, last, hlast, hgroups, happend⟩ := ih
    refine ⟨init, last, hlast, ?_, fun es' => ?_⟩
    · rw [groupsFrom_agent_of_no_rules current name rest hrules, hgroups]
    · rw [List.cons_append, groupsFrom_agent_of_no_rules current name _ hrules, happend]
  | turn current name rest h hrules ih =>
    obtain ⟨init, last, hlast, hgroups, happend⟩ := ih
    refine ⟨current :: init, last, hlast, ?_, fun es' => ?_⟩
    · rw [groupsFrom_agent_of_rules current name rest h hrules, hgroups, List.cons_append]
    · rw [List.cons_append, groupsFrom_agent_of_rules current name _ h hrules, happend,
        List.cons_append]
  | rule current r rest h ih =>
    obtain ⟨init, last, hlast, hgroups, happend⟩ := ih
    exact ⟨init, last, hlast, by rw [groupsFrom, hgroups],
      fun es' => by rw [List.cons_append, groupsFrom, happend]⟩

/-- Groups of which the later list is a continuation. -/
def Continues (groups groups' : List Group) : Prop :=
  ∃ init last last' more, groups = init ++ [last] ∧ groups' = init ++ last' :: more ∧
    last.Extends last'

theorem continues_ofEntries (es es' : List Entry) (h : es ≠ []) :
    Continues (ofEntries es).groups (ofEntries (es ++ es')).groups := by
  obtain ⟨current, rest, hcurrent, hes⟩ : ∃ current rest, current.agents ≠ [] ∧
      ∀ es', groupsFrom {} (es ++ es') = groupsFrom current (rest ++ es') := by
    cases es with
    | nil => exact absurd rfl h
    | cons e rest =>
      cases e with
      | agent name => exact ⟨{ agents := [name] }, rest, List.cons_ne_nil _ _, fun _ => rfl⟩
      | rule rule =>
        exact ⟨⟨["*"], [rule]⟩, rest, List.cons_ne_nil _ _, fun _ => rfl⟩
  obtain ⟨init, last, hlast, hgroups, happend⟩ := exists_groupsFrom_append current rest hcurrent
  obtain ⟨last', more, hopen, hextends⟩ := exists_groupsFrom_extends last es' hlast
  refine ⟨init, last, last', more, ?_, ?_, hextends⟩
  · have hnil := hes []
    rw [List.append_nil, List.append_nil] at hnil
    rw [ofEntries, hnil, hgroups]
  · rw [ofEntries, hes, happend, hopen]

namespace Continues

variable (groups groups' : List Group)

/-- Who is found in the groups is found at the same place in every continuation of them. -/
theorem findIdx?_names (h : Continues groups groups') (name : String) (i : Nat)
    (hi : groups.findIdx? (·.names name) = some i) :
    groups'.findIdx? (·.names name) = some i := by
  obtain ⟨init, last, last', more, rfl, rfl, hextends⟩ := h
  rw [List.findIdx?_append] at hi ⊢
  cases hinit : init.findIdx? (·.names name) with
  | some j =>
    rw [hinit] at hi
    exact hi
  | none =>
    rw [hinit, Option.none_or] at hi
    rw [Option.none_or]
    have hlast : last.names name = true := by
      by_contra hnot
      simp [hnot] at hi
    have hlast' := hextends.names last last' name hlast
    rw [List.findIdx?_cons, if_pos hlast] at hi
    rwa [List.findIdx?_cons, if_pos hlast']

theorem getElem?_of_lt (h : Continues groups groups') (i : Nat) (hi : i + 1 < groups.length) :
    groups'[i]? = groups[i]? := by
  obtain ⟨init, last, last', more, rfl, rfl, -⟩ := h
  rw [List.length_append, List.length_singleton] at hi
  rw [List.getElem?_append_left (by omega), List.getElem?_append_left (by omega)]

theorem length_le (h : Continues groups groups') : groups.length ≤ groups'.length := by
  obtain ⟨init, last, last', more, rfl, rfl, -⟩ := h
  simp

theorem extends_last (h : Continues groups groups') : ∃ last last', groups.getLast? = some last ∧
    groups'[groups.length - 1]? = some last' ∧ last.Extends last' := by
  obtain ⟨init, last, last', more, rfl, rfl, hextends⟩ := h
  exact ⟨last, last', by simp, by simp, hextends⟩

end Continues

theorem entries_append (text more : String) :
    entries (text ++ "\n" ++ more) = entries text ++ entries more := by
  have hlines : lines (text ++ "\n" ++ more) = lines text ++ lines more := by
    rw [lines_eq, lines_eq, lines_eq, String.toList_append, String.toList_append,
      List.append_assoc]
    exact List.splitOnP_append_cons _ _ rfl
  rw [entries, hlines, List.filterMap_append]
  rfl

/-- Some group of the document names the agent, whatever the case of its name. -/
def Names (d : Document) (agent : String) : Prop :=
  ∃ g ∈ d.groups, Text.lowercase agent ∈ g.agents

theorem groupIndex?_of_continues (d d' : Document) (h : Continues d.groups d'.groups)
    (agent : String) (hnames : d.Names agent) :
    ∃ i, d.groupIndex? agent = some i ∧ d'.groupIndex? agent = some i := by
  have hfound : (d.groups.findIdx? (·.names (Text.lowercase agent))).isSome = true := by
    obtain ⟨g, hg, hagent⟩ := hnames
    rw [List.findIdx?_isSome, List.any_eq_true]
    exact ⟨g, hg, by simpa [Group.names] using hagent⟩
  obtain ⟨i, hi⟩ := Option.isSome_iff_exists.mp hfound
  refine ⟨i, ?_, ?_⟩
  · rw [groupIndex?, hi, Option.some_or]
  · rw [groupIndex?, h.findIdx?_names _ _ _ i hi, Option.some_or]

theorem evaluate_of_continues (d d' : Document) (h : Continues d.groups d'.groups)
    (agent path : String) (i : Nat) (hi : i + 1 < d.groups.length)
    (hindex : d.groupIndex? agent = some i) (hindex' : d'.groupIndex? agent = some i) :
    d'.evaluate agent path = d.evaluate agent path := by
  have hg : d.groups[i]? = some d.groups[i] := List.getElem?_eq_getElem (by omega)
  have hg' : d'.groups[i]? = some d.groups[i] := by rw [h.getElem?_of_lt _ _ i hi, hg]
  rw [d.evaluate_of_groupIndex? agent path i _ hindex hg,
    d'.evaluate_of_groupIndex? agent path i _ hindex' hg']

theorem names_of_mem_agents (text agent : String) (g : Group) (hg : g ∈ (parse text).groups)
    (h : agent ∈ g.agents) : (parse text).Names agent := by
  refine ⟨g, hg, ?_⟩
  rwa [((isCanonical_parse text).agents g hg agent h).2]

/-- More lines leave all groups of a text but the last as they are, and add to that one at its ends
only. An agent that the text names keeps its place, and its answers too unless that is the last. -/
theorem parse_append (text more : String) (h : (parse text).groups ≠ []) :
    let d := parse text
    let d' := parse (text ++ "\n" ++ more)
    d.groups.length ≤ d'.groups.length ∧
    (∀ i, i + 1 < d.groups.length → d'.groups[i]? = d.groups[i]?) ∧
    (∃ last last', d.groups.getLast? = some last ∧
      d'.groups[d.groups.length - 1]? = some last' ∧ last.agents <+: last'.agents ∧
      last.rules <+: last'.rules ∧ (last.rules ≠ [] → last'.agents = last.agents)) ∧
    ∀ agent, (d.Names agent ∨ ∃ g ∈ d.groups, agent ∈ g.agents) →
      ∃ i, d.groupIndex? agent = some i ∧ d'.groupIndex? agent = some i ∧
        (i + 1 < d.groups.length → ∀ path, d'.evaluate agent path = d.evaluate agent path) := by
  intro d d'
  have hentries : entries text ≠ [] := by
    intro hnil
    rw [parse, hnil] at h
    exact h rfl
  have hcontinues : Continues d.groups d'.groups := by
    have hgroups := continues_ofEntries (entries text) (entries more) hentries
    rwa [← entries_append] at hgroups
  refine ⟨hcontinues.length_le, hcontinues.getElem?_of_lt, ?_, ?_⟩
  · obtain ⟨last, last', hlast, hlast', hextends⟩ := hcontinues.extends_last
    exact ⟨last, last', hlast, hlast', hextends.agents, hextends.rules, hextends.closed⟩
  · intro agent hagent
    have hnames : d.Names agent := by
      rcases hagent with hnames | ⟨g, hg, hmem⟩
      · exact hnames
      · exact names_of_mem_agents text agent g hg hmem
    obtain ⟨i, hindex, hindex'⟩ := d.groupIndex?_of_continues d' hcontinues agent hnames
    exact ⟨i, hindex, hindex', fun hi path =>
      d.evaluate_of_continues d' hcontinues agent path i hi hindex hindex'⟩

/-- The agents of the first group cannot be told otherwise by the lines that follow. -/
theorem parse_append_of_two_groups :
    let d := parse "User-agent: GPTBot\nDisallow: /a\nUser-agent: *"
    let d' := parse ("User-agent: GPTBot\nDisallow: /a\nUser-agent: *" ++ "\n" ++
      "User-agent: GPTBot\nAllow: /a")
    d.groups ≠ [] ∧ d'.evaluate "GPTBot" "/a" = d.evaluate "GPTBot" "/a" ∧
      d.evaluate "GPTBot" "/a" = .blocked := by
  intro d d'
  have hfilled : d.groups ≠ [] := by decide +kernel
  obtain ⟨-, -, -, hagents⟩ := parse_append _ "User-agent: GPTBot\nAllow: /a" hfilled
  have hindex : d.groupIndex? "GPTBot" = some 0 := by decide +kernel
  obtain ⟨i, hi, -, hevaluate⟩ := hagents "GPTBot" (Or.inl ⟨⟨["gptbot"], [⟨.disallow, "/a"⟩]⟩,
    by decide +kernel, by decide +kernel⟩)
  have hzero : i = 0 := Option.some.inj (hi.symm.trans hindex)
  subst hzero
  exact ⟨hfilled, hevaluate (by decide +kernel) "/a", by decide +kernel⟩

end Document

end Crawlability.Robots
