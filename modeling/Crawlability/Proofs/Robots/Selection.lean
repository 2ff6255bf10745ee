import Crawlability.Proofs.Robots.LongestMatch

/-!
A decision in two steps: the place of the group that speaks for an agent, and what that group says
of a path. The place hangs on the agents of the groups alone, and what a group says on its rules
alone. So a change of rules leaves the places as they are, and it is felt by those agents only for
which the changed group speaks.
-/
namespace Crawlability.Robots

/-- What a rule makes of the paths that it decides on. -/
def Directive.access : Directive → Access
  | allow => .allowed
  | disallow => .blocked

theorem Directive.access_inj (d e : Directive) : d.access = e.access ↔ d = e := by
  cases d <;> cases e <;> simp [access]

namespace Group

/-- What the group says of the path; without a matching rule it is allowed. -/
def access (g : Group) (path : String) : Access :=
  (g.deciding? path).elim .allowed fun r => r.directive.access

variable (g : Group) (path : String)

theorem access_of_deciding? (r : Rule) (h : g.deciding? path = some r) :
    g.access path = r.directive.access := by
  rw [access, h, Option.elim_some]

theorem access_of_deciding?_eq_none (h : g.deciding? path = none) : g.access path = .allowed := by
  rw [access, h, Option.elim_none]

end Group

namespace Document

/-- The place of the group that speaks for the agent. -/
def groupIndex? (d : Document) (agent : String) : Option Nat :=
  (d.groups.findIdx? (·.names (Text.lowercase agent))).or (d.groups.findIdx? (·.names "*"))

variable (d : Document) (agent path : String)

theorem groupFor?_eq_bind :
    d.groupFor? agent = (d.groupIndex? agent).bind (d.groups[·]?) := by
  rw [groupFor?, groupIndex?, List.find?_eq_bind_findIdx?_getElem?,
    List.find?_eq_bind_findIdx?_getElem?]
  cases hown : d.groups.findIdx? (·.names (Text.lowercase agent)) with
  | none => simp only [Option.bind_none, Option.none_or]
  | some i =>
    -- A place that was found is one in the list, so the second search does not come in.
    have hi : i < d.groups.length := (List.findIdx?_eq_some_iff_getElem.mp hown).1
    simp only [Option.bind_some, Option.some_or, List.getElem?_eq_getElem hi]

theorem lt_length_of_groupIndex? (i : Nat) (h : d.groupIndex? agent = some i) :
    i < d.groups.length := by
  rcases Option.or_eq_some_iff.mp h with hown | ⟨-, hall⟩
  · exact (List.findIdx?_eq_some_iff_getElem.mp hown).1
  · exact (List.findIdx?_eq_some_iff_getElem.mp hall).1

/-- Only the agents of the groups count. -/
theorem groupIndex?_congr (d d' : Document)
    (h : d.groups.map (·.agents) = d'.groups.map (·.agents)) :
    d.groupIndex? agent = d'.groupIndex? agent := by
  have hfind : ∀ (groups : List Group) (name : String), groups.findIdx? (·.names name) =
      (groups.map (·.agents)).findIdx? (·.contains name) := by
    intro groups name
    rw [List.findIdx?_map]
    rfl
  simp only [groupIndex?, hfind, h]

theorem evaluate_eq_elim :
    d.evaluate agent path = (d.groupFor? agent).elim .unknown (·.access path) := by
  unfold evaluate
  cases d.groupFor? agent with
  | none => rfl
  | some g =>
    simp only [Option.elim_some, Group.access]
    cases g.deciding? path with
    | none => rfl
    | some r =>
      obtain ⟨directive, p⟩ := r
      cases directive <;> rfl

theorem evaluate_of_groupIndex? (i : Nat) (g : Group) (hindex : d.groupIndex? agent = some i)
    (hg : d.groups[i]? = some g) : d.evaluate agent path = g.access path := by
  rw [evaluate_eq_elim, groupFor?_eq_bind, hindex, Option.bind_some, hg, Option.elim_some]

theorem evaluate_eq_unknown_iff_groupIndex? :
    d.evaluate agent path = .unknown ↔ d.groupIndex? agent = none := by
  rw [evaluate_eq_unknown_iff, groupFor?_eq_bind]
  cases hindex : d.groupIndex? agent with
  | none => simp
  | some i =>
    have hi := d.lt_length_of_groupIndex? agent i hindex
    simp [List.getElem?_eq_getElem hi]

/-! Changing the rules of one group. -/

/-- The document with other rules in the group at one place. -/
def modifyRules (i : Nat) (change : List Rule → List Rule) : Document :=
  ⟨d.groups.modify i fun g => { g with rules := change g.rules }⟩

variable (i : Nat) (change : List Rule → List Rule)

theorem groupIndex?_modifyRules :
    (d.modifyRules i change).groupIndex? agent = d.groupIndex? agent := by
  apply groupIndex?_congr
  apply List.ext_getElem?
  intro j
  rw [modifyRules, List.getElem?_map, List.getElem?_modify, List.getElem?_map]
  cases d.groups[j]? with
  | none => rfl
  | some g => by_cases hij : i = j <;> simp [hij]

theorem evaluate_modifyRules_eq_unknown_iff :
    (d.modifyRules i change).evaluate agent path = .unknown ↔
      d.evaluate agent path = .unknown := by
  rw [evaluate_eq_unknown_iff_groupIndex?, evaluate_eq_unknown_iff_groupIndex?,
    groupIndex?_modifyRules]

/-- Nobody else feels the change. -/
theorem evaluate_modifyRules_of_ne (h : d.groupIndex? agent ≠ some i) :
    (d.modifyRules i change).evaluate agent path = d.evaluate agent path := by
  rw [evaluate_eq_elim, evaluate_eq_elim, groupFor?_eq_bind, groupFor?_eq_bind,
    groupIndex?_modifyRules]
  cases hindex : d.groupIndex? agent with
  | none => rfl
  | some j =>
    have hij : i ≠ j := fun hij => h (by rw [hindex, hij])
    rw [Option.bind_some, Option.bind_some, modifyRules, List.getElem?_modify_ne _ _ hij]

theorem evaluate_modifyRules_of_eq (g : Group) (hg : d.groups[i]? = some g)
    (h : d.groupIndex? agent = some i) : (d.modifyRules i change).evaluate agent path =
      Group.access { g with rules := change g.rules } path := by
  apply evaluate_of_groupIndex? _ _ _ i
  · rw [groupIndex?_modifyRules, h]
  · rw [modifyRules, List.getElem?_modify, hg]
    simp

/-- A change of rules that leaves what the group says leaves every decision. -/
theorem evaluate_modifyRules_congr (g : Group) (hg : d.groups[i]? = some g)
    (h : Group.access { g with rules := change g.rules } path = g.access path) :
    (d.modifyRules i change).evaluate agent path = d.evaluate agent path := by
  by_cases hindex : d.groupIndex? agent = some i
  · rw [d.evaluate_modifyRules_of_eq agent path i change g hg hindex, h,
      d.evaluate_of_groupIndex? agent path i g hindex hg]
  · exact d.evaluate_modifyRules_of_ne agent path i change hindex

end Document

end Crawlability.Robots
