import Crawlability.Proofs.Robots.Line

/-!
How entries are gathered into groups. Written out again, agents before rules, the groups are the
entries as they came, except that `*` is put in front when a rule comes first. The list of groups is
well grouped: none is without agents, and only the last may be without rules. These two facts place
every boundary: a group opens at the first entry and at each agent right behind a rule.
-/
namespace Crawlability.Robots

namespace Entry

def agent? : Entry → Option String
  | .agent name => some name
  | .rule _ => none

def rule? : Entry → Option Rule
  | .agent _ => none
  | .rule r => some r

@[simp] theorem agent?_agent (name : String) : (agent name).agent? = some name := rfl

@[simp] theorem agent?_rule (r : Rule) : (rule r).agent? = none := rfl

@[simp] theorem rule?_agent (name : String) : (agent name).rule? = none := rfl

@[simp] theorem rule?_rule (r : Rule) : (rule r).rule? = some r := rfl

end Entry

namespace Group

/-- The entries that the group is made of. -/
def entries (g : Group) : List Entry := g.agents.map .agent ++ g.rules.map .rule

theorem filterMap_agent?_entries (g : Group) : g.entries.filterMap Entry.agent? = g.agents := by
  simp [entries, Function.comp_def]

theorem filterMap_rule?_entries (g : Group) : g.entries.filterMap Entry.rule? = g.rules := by
  simp [entries, Function.comp_def]

theorem entries_addAgent (g : Group) (name : String) (h : g.rules = []) :
    (g.addAgent name).entries = g.entries ++ [.agent name] := by
  simp [entries, addAgent, h]

theorem entries_addRule (g : Group) (rule : Rule) (h : g.agents ≠ []) :
    (g.addRule rule).entries = g.entries ++ [.rule rule] := by
  simp [entries, addRule, h]

theorem entries_eq_agent_cons (g : Group) (h : g.agents ≠ []) :
    ∃ name rest, g.entries = .agent name :: rest := by
  obtain ⟨name, names, hagents⟩ := List.exists_cons_of_ne_nil h
  exact ⟨name, names.map .agent ++ g.rules.map .rule, by simp [entries, hagents]⟩

theorem entries_eq_append_rule (g : Group) (h : g.rules ≠ []) :
    ∃ init rule, g.entries = init ++ [.rule rule] := by
  obtain hnil | ⟨rules, rule, hrules⟩ := List.eq_nil_or_concat g.rules
  · exact absurd hnil h
  · exact ⟨g.agents.map .agent ++ rules.map .rule, rule, by simp [entries, hrules]⟩

/-- In one group no agent stands behind a rule. -/
theorem getElem?_entries_pred (g : Group) (i : Nat) (name : String) (rule : Rule)
    (hname : g.entries[i]? = some (.agent name)) : g.entries[i - 1]? ≠ some (.rule rule) := by
  have hi : i < (g.agents.map Entry.agent).length := by
    by_contra hge
    rw [entries, List.getElem?_append_right (by omega), List.getElem?_map] at hname
    cases hrule : g.rules[i - (g.agents.map Entry.agent).length]? <;> rw [hrule] at hname <;>
      cases hname
  rw [entries, List.getElem?_append_left (by omega), List.getElem?_map]
  cases g.agents[i - 1]? with
  | none => simp
  | some n => simp

theorem agents_addAgent_ne_nil (g : Group) (name : String) : (g.addAgent name).agents ≠ [] := by
  simp [addAgent]

theorem agents_addRule_ne_nil (g : Group) (rule : Rule) : (g.addRule rule).agents ≠ [] := by
  unfold addRule
  split
  · exact List.cons_ne_nil _ _
  · rename_i h
    simpa using h

end Group

/-- No group is without agents, and only the last may be without rules. -/
structure WellGrouped (groups : List Group) : Prop where
  agents_ne_nil : ∀ g ∈ groups, g.agents ≠ []
  rules_ne_nil : ∀ g ∈ groups.dropLast, g.rules ≠ []

namespace WellGrouped

theorem nil : WellGrouped [] := ⟨by simp, by simp⟩

theorem singleton (g : Group) (h : g.agents ≠ []) : WellGrouped [g] := ⟨by simpa, by simp⟩

theorem cons (g : Group) (groups : List Group) (hagents : g.agents ≠ []) (hrules : g.rules ≠ [])
    (h : WellGrouped groups) : WellGrouped (g :: groups) := by
  constructor
  · intro k hk
    rcases List.mem_cons.mp hk with rfl | hk
    · exact hagents
    · exact h.agents_ne_nil k hk
  · intro k hk
    cases groups with
    | nil => simp at hk
    | cons first rest =>
      rcases List.mem_cons.mp hk with rfl | hk
      · exact hrules
      · exact h.rules_ne_nil k hk

theorem tail (g : Group) (groups : List Group) (h : WellGrouped (g :: groups)) :
    WellGrouped groups := by
  constructor
  · intro k hk
    exact h.agents_ne_nil k (List.mem_cons_of_mem g hk)
  · intro k hk
    cases groups with
    | nil => cases hk
    | cons first rest => exact h.rules_ne_nil k (List.mem_cons_of_mem g hk)

end WellGrouped

namespace Document

theorem groupsFrom_agent_of_rules (current : Group) (name : String) (rest : List Entry)
    (hagents : current.agents ≠ []) (hrules : current.rules ≠ []) :
    groupsFrom current (.agent name :: rest) = current :: groupsFrom { agents := [name] } rest := by
  simp [groupsFrom, hagents, hrules]

theorem groupsFrom_agent_of_no_rules (current : Group) (name : String) (rest : List Entry)
    (hrules : current.rules = []) :
    groupsFrom current (.agent name :: rest) = groupsFrom (current.addAgent name) rest := by
  simp [groupsFrom, hrules]

/-- Induction along the entries that an open group meets: it takes in agents until it has a rule,
then an agent opens the next group, and rules are taken in at any time. -/
@[elab_as_elim]
theorem groupsFrom_induction
    {motive : (current : Group) → List Entry → current.agents ≠ [] → Prop}
    (nil : ∀ current h, motive current [] h)
    (join : ∀ current name rest h, current.rules = [] →
      motive (current.addAgent name) rest (current.agents_addAgent_ne_nil name) →
        motive current (.agent name :: rest) h)
    (turn : ∀ current name rest h, current.rules ≠ [] →
      motive { agents := [name] } rest (List.cons_ne_nil _ _) →
        motive current (.agent name :: rest) h)
    (rule : ∀ current r rest h, motive (current.addRule r) rest (current.agents_addRule_ne_nil r) →
      motive current (.rule r :: rest) h)
    (current : Group) (es : List Entry) (h : current.agents ≠ []) : motive current es h := by
  induction es generalizing current with
  | nil => exact nil current h
  | cons e rest ih =>
    cases e with
    | agent name =>
      by_cases hrules : current.rules = []
      · exact join current name rest h hrules (ih _ _)
      · exact turn current name rest h hrules (ih _ _)
    | rule r => exact rule current r rest h (ih _ _)

/-- Nothing of the open group or of the entries behind it is lost, doubled or moved. -/
theorem flatMap_groupsFrom (current : Group) (es : List Entry) (h : current.agents ≠ []) :
    (groupsFrom current es).flatMap Group.entries = current.entries ++ es := by
  induction current, es, h using groupsFrom_induction with
  | nil current h => simp [groupsFrom, h]
  | join current name rest h hrules ih =>
    rw [groupsFrom_agent_of_no_rules current name rest hrules, ih,
      current.entries_addAgent name hrules]
    simp
  | turn current name rest h hrules ih =>
    rw [groupsFrom_agent_of_rules current name rest h hrules, List.flatMap_cons, ih]
    simp [Group.entries]
  | rule current r rest h ih =>
    rw [groupsFrom, ih, current.entries_addRule r h]
    simp

theorem wellGrouped_groupsFrom (current : Group) (es : List Entry) (h : current.agents ≠ []) :
    WellGrouped (groupsFrom current es) := by
  induction current, es, h using groupsFrom_induction with
  | nil current h =>
    have hlast : groupsFrom current [] = [current] := by simp [groupsFrom, h]
    rw [hlast]
    exact WellGrouped.singleton current h
  | join current name rest h hrules ih =>
    rwa [groupsFrom_agent_of_no_rules current name rest hrules]
  | turn current name rest h hrules ih =>
    rw [groupsFrom_agent_of_rules current name rest h hrules]
    exact WellGrouped.cons current _ h hrules ih
  | rule current r rest h ih => rwa [groupsFrom]

/-- The entries with `*` in front when a rule comes first. -/
def seeded : List Entry → List Entry
  | .rule rule :: rest => .agent "*" :: .rule rule :: rest
  | es => es

theorem flatMap_groups_ofEntries (es : List Entry) :
    (ofEntries es).groups.flatMap Group.entries = seeded es := by
  cases es with
  | nil => rfl
  | cons e rest =>
    cases e with
    | agent name => exact flatMap_groupsFrom { agents := [name] } rest (List.cons_ne_nil _ _)
    | rule rule =>
      exact flatMap_groupsFrom { agents := ["*"], rules := [rule] } rest (List.cons_ne_nil _ _)

theorem wellGrouped_ofEntries (es : List Entry) : WellGrouped (ofEntries es).groups := by
  cases es with
  | nil => exact WellGrouped.nil
  | cons e rest =>
    cases e with
    | agent name => exact wellGrouped_groupsFrom { agents := [name] } rest (List.cons_ne_nil _ _)
    | rule rule =>
      exact wellGrouped_groupsFrom { agents := ["*"], rules := [rule] } rest (List.cons_ne_nil _ _)

end Document

/-- A group of the list begins with the entry at this position. -/
def OpensAt (groups : List Group) (i : Nat) : Prop :=
  ∃ before g after, groups = before ++ g :: after ∧ (before.flatMap Group.entries).length = i

/-- The entry at this position is an agent, and it is the first entry or follows a rule. -/
def TurnsAt (es : List Entry) (i : Nat) : Prop :=
  ∃ name, es[i]? = some (.agent name) ∧ (i = 0 ∨ ∃ rule, es[i - 1]? = some (.rule rule))

theorem turnsAt_of_opensAt (groups : List Group) (hgroups : WellGrouped groups) (i : Nat)
    (h : OpensAt groups i) : TurnsAt (groups.flatMap Group.entries) i := by
  obtain ⟨before, g, after, rfl, hi⟩ := h
  obtain ⟨name, rest, hentries⟩ :=
    g.entries_eq_agent_cons (hgroups.agents_ne_nil g (by simp))
  refine ⟨name, ?_, ?_⟩
  · rw [List.flatMap_append, List.getElem?_append_right (by omega), List.flatMap_cons, hentries]
    simp [hi]
  · obtain rfl | ⟨init, last, rfl⟩ := List.eq_nil_or_concat before
    · left
      simpa using hi.symm
    · -- The group before is not the last of the list, so it ends in a rule.
      right
      have hlast : last.rules ≠ [] := hgroups.rules_ne_nil last (by simp)
      obtain ⟨pre, rule, hpre⟩ := last.entries_eq_append_rule hlast
      have hpos : (init.flatMap Group.entries ++ pre).length = i - 1 := by
        rw [← hi]
        simp [hpre, ← Nat.add_assoc]
      have hsplit : (init.concat last ++ g :: after).flatMap Group.entries =
          (init.flatMap Group.entries ++ pre) ++
            .rule rule :: (g :: after).flatMap Group.entries := by
        simp [hpre]
      refine ⟨rule, ?_⟩
      rw [hsplit, ← hpos, List.getElem?_append_right (Nat.le_refl _)]
      simp

theorem opensAt_of_turnsAt (groups : List Group) (i : Nat)
    (h : TurnsAt (groups.flatMap Group.entries) i) : OpensAt groups i := by
  induction groups generalizing i with
  | nil =>
    obtain ⟨name, hname, _⟩ := h
    simp at hname
  | cons g groups ih =>
    obtain ⟨name, hname, hprev⟩ := h
    rw [List.flatMap_cons] at hname hprev
    by_cases hi : i < g.entries.length
    · rw [List.getElem?_append_left hi] at hname
      rcases hprev with rfl | ⟨rule, hrule⟩
      · exact ⟨[], g, groups, rfl, rfl⟩
      · rw [List.getElem?_append_left (by omega)] at hrule
        exact absurd hrule (g.getElem?_entries_pred i name rule hname)
    · rw [List.getElem?_append_right (by omega)] at hname
      have hturn : TurnsAt (groups.flatMap Group.entries) (i - g.entries.length) := by
        refine ⟨name, hname, ?_⟩
        by_cases hzero : i - g.entries.length = 0
        · exact Or.inl hzero
        · right
          rcases hprev with hfirst | ⟨rule, hrule⟩
          · omega
          · rw [List.getElem?_append_right (by omega), Nat.sub_right_comm] at hrule
            exact ⟨rule, hrule⟩
      obtain ⟨before, k, after, rfl, hlen⟩ := ih (i - g.entries.length) hturn
      exact ⟨g :: before, k, after, rfl, by rw [List.flatMap_cons, List.length_append]; omega⟩

/-- The boundaries of well-grouped groups stand where agents follow rules and nowhere else. -/
theorem opensAt_iff_turnsAt (groups : List Group) (hgroups : WellGrouped groups) (i : Nat) :
    OpensAt groups i ↔ TurnsAt (groups.flatMap Group.entries) i :=
  ⟨turnsAt_of_opensAt groups hgroups i, opensAt_of_turnsAt groups i⟩

namespace Document

/-- Every text says one list of entries in its lines. Its groups hold the agents and the rules of
them, each as often and in the order as they are written, with boundaries exactly between a rule and
an agent behind it. -/
theorem parse_groups (text : String) :
    (∃ es, Tells text es) ∧
    ∀ es, Tells text es →
      (parse text).groups.flatMap (·.agents) = (seeded es).filterMap Entry.agent? ∧
      (parse text).groups.flatMap (·.rules) = (seeded es).filterMap Entry.rule? ∧
      (parse text).groups.flatMap Group.entries = seeded es ∧
      (∀ i, OpensAt (parse text).groups i ↔ TurnsAt (seeded es) i) ∧
      WellGrouped (parse text).groups := by
  refine ⟨⟨entries text, (tells_iff text _).mpr rfl⟩, ?_⟩
  intro es hes
  obtain rfl : entries text = es := (tells_iff text es).mp hes
  have hentries : (parse text).groups.flatMap Group.entries = seeded (entries text) :=
    flatMap_groups_ofEntries (entries text)
  have hgroups : WellGrouped (parse text).groups := wellGrouped_ofEntries (entries text)
  refine ⟨?_, ?_, hentries, ?_, hgroups⟩
  · rw [← hentries, List.filterMap_flatMap]
    simp only [Group.filterMap_agent?_entries]
  · rw [← hentries, List.filterMap_flatMap]
    simp only [Group.filterMap_rule?_entries]
  · intro i
    rw [opensAt_iff_turnsAt _ hgroups, hentries]

/-- A rule before all agents, two agents that share a rule, and an agent without one, in lines that
end in different ways, among them an empty one and a comment. -/
theorem parse_groups_of_three_groups :
    let text := "Disallow: /a\r\nUSER-AGENT : GPTBot\n# Allow: /c\ruser-agent:*\n" ++
      "allow:  /b \nUser-agent: Bingbot"
    let es := [Entry.rule ⟨.disallow, "/a"⟩, .agent "gptbot", .agent "*", .rule ⟨.allow, "/b"⟩,
      .agent "bingbot"]
    Tells text es ∧ (parse text).groups.flatMap Group.entries = .agent "*" :: es ∧
      (parse text).groups = [⟨["*"], [⟨.disallow, "/a"⟩]⟩,
        ⟨["gptbot", "*"], [⟨.allow, "/b"⟩]⟩, ⟨["bingbot"], []⟩] := by
  intro text es
  have htells : Tells text es := (tells_iff text es).mpr (by decide +kernel)
  obtain ⟨-, -, hentries, -⟩ := (parse_groups text).2 es htells
  exact ⟨htells, hentries, by decide +kernel⟩

end Document

end Crawlability.Robots
