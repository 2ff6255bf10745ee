import Crawlability.Proofs.Config.Credentials

/-!
Environments, laid over a configuration one after the other. Four fields can be replaced, each by a
variable of its own. A field ends with the value of its variable in the last environment in which
this is there and not blank, and it stays as it is if there is none; so blank values let through
what was there before. All else in the configuration stays.
-/
namespace Crawlability.Config

/-- The fields that an environment can replace. -/
inductive Credential where
  | indexNowKey
  | indexNowKeyLocation
  | perplexityKey
  | perplexityModel
deriving Repr, DecidableEq

namespace Credential

def variableName : Credential → String
  | indexNowKey => "INDEXNOW_KEY"
  | indexNowKeyLocation => "INDEXNOW_KEY_LOCATION"
  | perplexityKey => "PERPLEXITY_API_KEY"
  | perplexityModel => "PERPLEXITY_MODEL"

def value? (f : Credential) (c : Config) : Option String :=
  match f with
  | indexNowKey => c.indexNow.key?
  | indexNowKeyLocation => c.indexNow.keyLocation?
  | perplexityKey => c.perplexity.apiKey?
  | perplexityModel => c.perplexity.model?

theorem variableName_injective : Function.Injective variableName := by
  intro f g h
  cases f <;> cases g <;> first | rfl | exact absurd h (by decide)

end Credential

/-- The configuration with these values in the four fields, and all else as it is. -/
def withCredentials (c : Config) (values : Credential → Option String) : Config where
  transport := c.transport
  indexNow := { c.indexNow with
    key? := values .indexNowKey
    keyLocation? := values .indexNowKeyLocation }
  perplexity := { c.perplexity with
    apiKey? := values .perplexityKey
    model? := values .perplexityModel }
  logging := c.logging

@[simp]
theorem Credential.value?_withCredentials (f : Credential) (c : Config)
    (values : Credential → Option String) : f.value? (c.withCredentials values) = values f := by
  cases f <;> rfl

theorem withCredentials_value? (c : Config) : c.withCredentials (·.value? c) = c := rfl

/-- What one environment does. -/
theorem overlay_eq (c : Config) (env : Environment) : c.overlay env =
    c.withCredentials fun f => (env.present? f.variableName).or (f.value? c) := rfl

/-- All that it changes is in the four fields. -/
theorem withCredentials_overlay (c : Config) (env : Environment)
    (values : Credential → Option String) :
    (c.overlay env).withCredentials values = c.withCredentials values := rfl

theorem Credential.value?_overlay (f : Credential) (c : Config) (env : Environment) :
    f.value? (c.overlay env) = (env.present? f.variableName).or (f.value? c) := by
  rw [overlay_eq, value?_withCredentials]

theorem overlay_overlay (c : Config) (env : Environment) :
    (c.overlay env).overlay env = c.overlay env := by
  have hvalues : ∀ f : Credential, (env.present? f.variableName).or (f.value? (c.overlay env)) =
      (env.present? f.variableName).or (f.value? c) := by
    intro f
    rw [f.value?_overlay, ← Option.or_assoc, Option.or_self]
  rw [overlay_eq (c.overlay env), withCredentials_overlay, funext hvalues, overlay_eq]

/-- What a field holds after the environments, by its original value and the values of its variable.
-/
inductive Settles (name : String) (original? : Option String) :
    List Environment → Option String → Prop
  /-- The last environment that gives a text, just as it gives it. -/
  | last (before : List Environment) (env : Environment) (after : List Environment) (text : String)
      (htext : env name = some text) (hgiven : Text.isAllBlank text = false)
      (hafter : ∀ later ∈ after, Text.IsMissing (later name)) :
      Settles name original? (before ++ env :: after) (some text)
  /-- No environment gives a text. -/
  | original (envs : List Environment) (h : ∀ env ∈ envs, Text.IsMissing (env name)) :
      Settles name original? envs original?

theorem Environment.present?_eq_some_iff (env : Environment) (name text : String) :
    env.present? name = some text ↔ env name = some text ∧ Text.isAllBlank text = false := by
  simp [present?, Option.filter_eq_some_iff]

theorem Environment.present?_eq_none_iff (env : Environment) (name : String) :
    env.present? name = none ↔ Text.IsMissing (env name) := by
  simp [present?, Text.IsMissing, Option.filter_eq_none_iff]

/-- An environment at the front counts as if it had been laid over the original value. -/
theorem Settles.cons (name : String) (original? value? : Option String) (env : Environment)
    (envs : List Environment)
    (h : Settles name ((env.present? name).or original?) envs value?) :
    Settles name original? (env :: envs) value? := by
  cases h with
  | last before other after text htext hgiven hafter =>
    exact .last (env :: before) other after text htext hgiven hafter
  | original _ hmissing =>
    cases hpresent : env.present? name with
    | none =>
      have hall : ∀ other ∈ env :: envs, Text.IsMissing (other name) :=
        List.forall_mem_cons.mpr ⟨(env.present?_eq_none_iff name).mp hpresent, hmissing⟩
      exact .original (env :: envs) hall
    | some text =>
      obtain ⟨htext, hgiven⟩ := (env.present?_eq_some_iff name text).mp hpresent
      exact .last [] env envs text htext hgiven hmissing

theorem settles_foldl_overlay (f : Credential) (c : Config) (envs : List Environment) :
    Settles f.variableName (f.value? c) envs (f.value? (envs.foldl overlay c)) := by
  induction envs generalizing c with
  | nil => exact .original [] (by simp)
  | cons env envs ih =>
    have hrest := ih (c.overlay env)
    rw [f.value?_overlay] at hrest
    exact hrest.cons

/-- The values of the variable decide, read from the last environment on. -/
theorem Settles.eq_firstGiven?_or (name : String) (original? value? : Option String)
    (envs : List Environment) (h : Settles name original? envs value?) :
    value? = (firstGiven? (envs.map (· name)).reverse).or original? := by
  cases h with
  | last before env after text htext hgiven hafter =>
    have hlast : firstGiven? ((before ++ env :: after).map (· name)).reverse = some text := by
      refine (firstGiven?_eq_some_iff _ _).mpr
        ⟨(after.map (· name)).reverse, (before.map (· name)).reverse, ?_, hgiven, ?_⟩
      · simp [htext]
      · intro other hother
        obtain ⟨later, hlater, heq⟩ := List.mem_map.mp (List.mem_reverse.mp hother)
        exact hafter later hlater other heq
    rw [hlast, Option.some_or]
  | original _ hmissing =>
    have hnone : firstGiven? (envs.map (· name)).reverse = none := by
      refine (firstGiven?_eq_none_iff _).mpr ?_
      intro layer? hlayer
      obtain ⟨env, henv, heq⟩ := List.mem_map.mp (List.mem_reverse.mp hlayer)
      exact heq ▸ hmissing env henv
    rw [hnone, Option.none_or]

theorem Credential.value?_foldl_overlay (f : Credential) (c : Config) (envs : List Environment) :
    f.value? (envs.foldl overlay c) =
      (firstGiven? (envs.map (· f.variableName)).reverse).or (f.value? c) :=
  (settles_foldl_overlay f c envs).eq_firstGiven?_or

theorem foldl_overlay_eq (c : Config) (envs : List Environment) : envs.foldl overlay c =
    c.withCredentials fun f => f.value? (envs.foldl overlay c) := by
  induction envs generalizing c with
  | nil => exact c.withCredentials_value?.symm
  | cons env envs ih =>
    have hrest := ih (c.overlay env)
    rw [withCredentials_overlay] at hrest
    exact hrest

/-- After any environments each of the four fields holds what its own variable settles, whatever
the other fields and variables are, and no other field has changed; an environment that is laid over
twice does what it does once. -/
theorem foldl_overlay_settles (c : Config) (envs : List Environment) :
    (∀ (f : Credential) (value? : Option String),
      Settles f.variableName (f.value? c) envs value? ↔
        f.value? (envs.foldl overlay c) = value?) ∧
    (envs.foldl overlay c = c.withCredentials fun f => f.value? (envs.foldl overlay c)) ∧
    (∀ (f : Credential) (other : Config) (others : List Environment),
      f.value? other = f.value? c →
      others.map (· f.variableName) = envs.map (· f.variableName) →
        f.value? (others.foldl overlay other) = f.value? (envs.foldl overlay c)) ∧
    Function.Injective Credential.variableName ∧
    ∀ env : Environment, (c.overlay env).overlay env = c.overlay env := by
  refine ⟨?_, foldl_overlay_eq c envs, ?_, Credential.variableName_injective, overlay_overlay c⟩
  · intro f value?
    constructor
    · intro h
      rw [h.eq_firstGiven?_or, f.value?_foldl_overlay]
    · intro h
      exact h ▸ settles_foldl_overlay f c envs
  · intro f other others hvalue hvariable
    rw [f.value?_foldl_overlay, f.value?_foldl_overlay, hvalue, hvariable]

/-- The text counts with its blanks; a later blank one lets it through. -/
example : ([fun _ => some "a", fun _ => some " b ", fun _ => some "\t"] : List Environment).foldl
    overlay {} = ({} : Config).withCredentials fun _ => some " b " := by
  decide

end Crawlability.Config
