import Crawlability.Proofs.Robots.Grouping
import Crawlability.Proofs.Robots.LongestMatch

/-!
When a robots file leaves an agent's access unknown, read off its lines. No line names the agent or
`*`, and no rule stands before all agents, since such a rule would speak for `*`. So the answer
hangs on the agents that the lines name and on whether a rule comes first; what the rules are and
which path is asked for play no part.
-/
namespace Crawlability.Robots.Document

theorem agent_mem_entries_iff (g : Group) (name : String) :
    .agent name ∈ g.entries ↔ name ∈ g.agents := by
  simp [Group.entries]

/-- Some group of the document names the agent. -/
theorem exists_names_iff (d : Document) (name : String) :
    (∃ g ∈ d.groups, name ∈ g.agents) ↔ .agent name ∈ d.groups.flatMap Group.entries := by
  simp only [List.mem_flatMap, agent_mem_entries_iff]

theorem groupFor?_eq_none_iff (d : Document) (agent : String) : d.groupFor? agent = none ↔
    .agent (Text.lowercase agent) ∉ d.groups.flatMap Group.entries ∧
      .agent "*" ∉ d.groups.flatMap Group.entries := by
  rw [groupFor?, Option.or_eq_none_iff, find?_names_eq_none_iff, find?_names_eq_none_iff,
    ← exists_names_iff, ← exists_names_iff]
  simp

theorem agent_mem_seeded_iff (es : List Entry) (name : String) : .agent name ∈ seeded es ↔
    .agent name ∈ es ∨ name = "*" ∧ (es.map Entry.agent?).head? = some none := by
  cases es with
  | nil => simp [seeded]
  | cons e rest =>
    cases e with
    | agent first => simp [seeded]
    | rule r =>
      simp [seeded]
      tauto

/-- Only the agents that the entries name, and whether a rule comes first, matter. -/
theorem evaluate_ofEntries_eq_unknown_iff (es : List Entry) (agent path : String) :
    (ofEntries es).evaluate agent path = .unknown ↔
      (∀ name, .agent name ∈ es → name ≠ Text.lowercase agent ∧ name ≠ "*") ∧
        (es.map Entry.agent?).head? ≠ some none := by
  rw [evaluate_eq_unknown_iff, groupFor?_eq_none_iff, flatMap_groups_ofEntries,
    agent_mem_seeded_iff, agent_mem_seeded_iff]
  constructor
  · rintro ⟨hown, hall⟩
    refine ⟨fun name hname => ⟨?_, ?_⟩, fun hfirst => hall (Or.inr ⟨rfl, hfirst⟩)⟩
    · rintro rfl
      exact hown (Or.inl hname)
    · rintro rfl
      exact hall (Or.inl hname)
  · rintro ⟨hnames, hfirst⟩
    constructor
    · rintro (hname | ⟨_, hrule⟩)
      · exact (hnames _ hname).1 rfl
      · exact hfirst hrule
    · rintro (hname | ⟨_, hrule⟩)
      · exact (hnames _ hname).2 rfl
      · exact hfirst hrule

theorem some_mem_map_agent?_iff (es : List Entry) (name : String) :
    some name ∈ es.map Entry.agent? ↔ .agent name ∈ es := by
  rw [List.mem_map]
  constructor
  · rintro ⟨e, he, hname⟩
    cases e with
    | agent n =>
      rw [← Option.some.inj hname]
      exact he
    | rule r => cases hname
  · intro h
    exact ⟨.agent name, h, rfl⟩

/-- Some line is a rule and has no agent before it. -/
def RuleComesFirst (ls : List (List Char)) : Prop :=
  ∃ before line after rule, ls = before ++ line :: after ∧ Says line (.rule rule) ∧
    ∀ earlier ∈ before, ∀ name, ¬ Says earlier (.agent name)

theorem ruleComesFirst_iff (ls : List (List Char)) :
    RuleComesFirst ls ↔
      ((ls.filterMap Entry.ofLine?).map Entry.agent?).head? = some none := by
  constructor
  · rintro ⟨before, line, after, r, rfl, hrule, hbefore⟩
    have hentries : (before ++ line :: after).filterMap Entry.ofLine? =
        before.filterMap Entry.ofLine? ++ .rule r :: after.filterMap Entry.ofLine? := by
      rw [List.filterMap_append,
        List.filterMap_cons_some ((Entry.ofLine?_eq_some_iff line _).mpr hrule)]
    cases hhead : before.filterMap Entry.ofLine? with
    | nil =>
      rw [hentries, hhead]
      rfl
    | cons e rest =>
      have hmem : e ∈ before.filterMap Entry.ofLine? := by simp [hhead]
      obtain ⟨earlier, hearlier, hsays⟩ := List.mem_filterMap.mp hmem
      cases e with
      | agent name =>
        have hagent := (Entry.ofLine?_eq_some_iff earlier _).mp hsays
        exact absurd hagent (hbefore earlier hearlier name)
      | rule first =>
        rw [hentries, hhead]
        rfl
  · intro h
    obtain ⟨e, rest, hentries, hrule⟩ :
        ∃ e rest, ls.filterMap Entry.ofLine? = e :: rest ∧ e.agent? = none := by
      cases hes : ls.filterMap Entry.ofLine? with
      | nil => simp [hes] at h
      | cons e rest => exact ⟨e, rest, rfl, by simpa [hes] using h⟩
    obtain ⟨before, line, after, hlines, hnone, hsays, _⟩ := List.filterMap_eq_cons_iff.mp hentries
    cases e with
    | agent name => cases hrule
    | rule r =>
      refine ⟨before, line, after, r, hlines, (Entry.ofLine?_eq_some_iff line _).mp hsays, ?_⟩
      intro earlier hearlier name hname
      have hsilent := hnone earlier hearlier
      rw [(Entry.ofLine?_eq_some_iff earlier _).mpr hname] at hsilent
      cases hsilent

/-- The access of an agent is unknown when no line names it or `*` and no rule comes first. Another
path, or a text whose lines name the same agents between rules of any kind, changes nothing. -/
theorem evaluate_parse_eq_unknown_iff (text agent path : String) :
    (∃ ls, HasLines text.toList ls) ∧
    (∀ ls, HasLines text.toList ls →
      ((parse text).evaluate agent path = .unknown ↔
        (∀ line ∈ ls, ∀ name, Says line (.agent name) →
          name ≠ Text.lowercase agent ∧ name ≠ "*") ∧ ¬ RuleComesFirst ls)) ∧
    ∀ text' path' es es', Tells text es → Tells text' es' →
      es'.map Entry.agent? = es.map Entry.agent? →
      ((parse text').evaluate agent path' = .unknown ↔
        (parse text).evaluate agent path = .unknown) := by
  refine ⟨⟨lines text, (hasLines_iff_lines text _).mpr rfl⟩, ?_, ?_⟩
  · intro ls hls
    obtain rfl : lines text = ls := (hasLines_iff_lines text ls).mp hls
    rw [ruleComesFirst_iff, parse, evaluate_ofEntries_eq_unknown_iff]
    simp only [mem_entries_iff]
    constructor
    · rintro ⟨hnames, hfirst⟩
      exact ⟨fun line hline name hsays => hnames name ⟨line, hline, hsays⟩, hfirst⟩
    · rintro ⟨hnames, hfirst⟩
      refine ⟨?_, hfirst⟩
      rintro name ⟨line, hline, hsays⟩
      exact hnames line hline name hsays
  · intro text' path' es es' hes hes' hsame
    rw [← (tells_iff text es).mp hes, ← (tells_iff text' es').mp hes'] at hsame
    simp only [parse, evaluate_ofEntries_eq_unknown_iff, ← some_mem_map_agent?_iff, hsame]

/-- An agent that no line names is not known about, and one that is named is blocked, whatever rules
stand there. With the rule in front of the agent there is an answer for both. -/
theorem evaluate_parse_unknown_other_rules :
    let text := "User-agent: GPTBot\nDisallow: /a"
    let other := "user-agent: gptbot\r\nALLOW: /b"
    let turned := "Disallow: /a\rUser-agent: GPTBot"
    (HasLines text.toList ["User-agent: GPTBot".toList, "Disallow: /a".toList] ∧
      (parse text).evaluate "Bingbot" "/a" = .unknown ∧
      (parse text).evaluate "GPTBot" "/a" = .blocked) ∧
    (parse other).evaluate "Bingbot" "/b" = .unknown ∧
    HasLines turned.toList ["Disallow: /a".toList, "User-agent: GPTBot".toList] ∧
    RuleComesFirst ["Disallow: /a".toList, "User-agent: GPTBot".toList] ∧
    (parse turned).evaluate "Bingbot" "/a" = .blocked := by
  intro text other turned
  have hread : lines text = ["User-agent: GPTBot".toList, "Disallow: /a".toList] := by
    decide +kernel
  have hlines := (hasLines_iff_lines text _).mpr hread
  have htells : Tells text [.agent "gptbot", .rule ⟨.disallow, "/a"⟩] :=
    (tells_iff text _).mpr (by decide +kernel)
  have hother : Tells other [.agent "gptbot", .rule ⟨.allow, "/b"⟩] :=
    (tells_iff other _).mpr (by decide +kernel)
  obtain ⟨-, hunknown, hrules⟩ := evaluate_parse_eq_unknown_iff text "Bingbot" "/a"
  have hbing : (parse text).evaluate "Bingbot" "/a" = .unknown := by
    refine (hunknown _ hlines).mpr ⟨?_, ?_⟩
    · intro line hline name hsays
      have hname : .agent name ∈ entries text :=
        (mem_entries_iff text _).mpr ⟨line, hread ▸ hline, hsays⟩
      rw [(tells_iff text _).mp htells] at hname
      obtain rfl : name = "gptbot" := by simpa using hname
      decide +kernel
    · rw [ruleComesFirst_iff]
      decide +kernel
  refine ⟨⟨hlines, hbing, by decide +kernel⟩, ?_, ?_, ?_, by decide +kernel⟩
  · exact (hrules other "/b" _ _ htells hother rfl).mpr hbing
  · exact (hasLines_iff_lines turned _).mpr (by decide +kernel)
  · rw [ruleComesFirst_iff]
    decide +kernel

end Crawlability.Robots.Document
