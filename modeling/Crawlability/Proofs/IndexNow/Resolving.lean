import Crawlability.Proofs.Config.Credentials
import Crawlability.Proofs.Url.Reading

/-!
What becomes of a submission before anything is sent. Its addresses are the trimmed texts that can
be read as one, in their order. It needs an address and a host first, and then a key; what it comes
to is complete, and nothing in it is empty.
-/
namespace Crawlability

namespace IndexNow

namespace Submission

variable (s : Submission)

/-- The trimmed texts that are addresses, with repetitions and in their order. -/
def addresses : List String :=
  (s.urls.map Text.trim).filter fun text => (Url.parse text).toOption.isSome

/-- There is no address, or no host is given and the first address has none. -/
def LacksTarget : Prop :=
  s.addresses = [] ∨ Text.IsMissing s.host? ∧ ∃ first rest url,
    s.addresses = first :: rest ∧ Url.parse first = .ok url ∧ url.host? = none

/-- Neither the caller nor the configuration gives a key. -/
def LacksKey (c : Config.IndexNow) : Prop := Text.IsMissing s.apiKey? ∧ Text.IsMissing c.key?

/-- The host that is given, or else that of the first address. -/
def HasHost (host : String) : Prop :=
  (∃ own, s.host? = some own ∧ Text.isAllBlank own = false ∧ host = Text.trim own) ∨
  Text.IsMissing s.host? ∧ ∃ first rest url found, s.addresses = first :: rest ∧
    Url.parse first = .ok url ∧ url.host? = some found ∧ host = found.text

end Submission

/-- The payload is what a submission asks for, with the configuration behind it. -/
structure Payload.IsFor (p : Payload) (s : Submission) (c : Config.IndexNow) : Prop where
  urls : p.urls = s.addresses
  host : s.HasHost p.host
  key : ∃ key, Config.firstGiven? [s.apiKey?, c.key?] = some key ∧ p.key = Text.trim key
  keyLocation : p.keyLocation =
    ((Config.firstGiven? [s.keyLocation?, c.keyLocation?]).map Text.trim).getD
      ("https://" ++ p.host ++ "/" ++ p.key ++ ".txt")

/-! Addresses. -/

theorem Payload.map_fst_validUrls (urls : List String) :
    (validUrls urls).map (·.1) =
      (urls.map Text.trim).filter fun text => (Url.parse text).toOption.isSome := by
  induction urls with
  | nil => rfl
  | cons raw urls ih =>
    rw [validUrls, List.filterMap_cons, ← validUrls, List.map_cons, List.filter_cons]
    cases (Url.parse (Text.trim raw)).toOption with
    | none => simpa using ih
    | some url => simpa using ih

theorem Payload.parse_of_mem_validUrls (urls : List String) (text : String) (url : Url)
    (h : (text, url) ∈ validUrls urls) : Url.parse text = .ok url := by
  obtain ⟨raw, -, hraw⟩ := List.mem_filterMap.mp h
  obtain ⟨found, hparse, hpair⟩ := Url.exists_of_map_toOption (Text.trim raw) _ _ hraw
  obtain ⟨rfl, rfl⟩ := Prod.mk.inj hpair
  exact hparse

theorem Submission.addresses_eq_nil (s : Submission) (h : Payload.validUrls s.urls = []) :
    s.addresses = [] := by
  rw [addresses, ← Payload.map_fst_validUrls, h, List.map_nil]

theorem Submission.addresses_eq_cons (s : Submission) (first : String) (url : Url)
    (rest : List (String × Url)) (h : Payload.validUrls s.urls = (first, url) :: rest) :
    s.addresses = first :: rest.map (·.1) ∧ Url.parse first = .ok url := by
  refine ⟨?_, ?_⟩
  · rw [addresses, ← Payload.map_fst_validUrls, h, List.map_cons]
  · apply Payload.parse_of_mem_validUrls s.urls
    rw [h]
    exact List.mem_cons_self

/-! Layers. -/

theorem Payload.present?_eq_none_iff (text? : Option String) :
    present? text? = none ↔ Text.IsMissing text? := by
  simp [present?_eq, Text.IsMissing, Option.filter_eq_none_iff]

theorem Payload.present?_eq_some_iff (text? : Option String) (text : String) :
    present? text? = some text ↔
      ∃ own, text? = some own ∧ Text.isAllBlank own = false ∧ text = Text.trim own := by
  simp only [present?_eq, Option.map_eq_some_iff, Option.filter_eq_some_iff, Bool.not_eq_true',
    and_assoc, @eq_comm _ text]

/-! The target. -/

theorem Submission.target?_eq_none_iff (s : Submission) : s.target? = none ↔ s.LacksTarget := by
  unfold target? LacksTarget
  split
  · rename_i hurls
    simp [s.addresses_eq_nil hurls]
  · rename_i first url rest hurls
    obtain ⟨haddresses, hparse⟩ := s.addresses_eq_cons first url rest hurls
    rw [Option.map_eq_none_iff, Option.or_eq_none_iff, Payload.present?_eq_none_iff,
      Option.map_eq_none_iff, haddresses]
    constructor
    · rintro ⟨hmissing, hhost⟩
      exact Or.inr ⟨hmissing, first, _, url, rfl, hparse, hhost⟩
    · rintro (hnone | ⟨hmissing, first', rest', url', hcons, hparse', hhost⟩)
      · cases hnone
      · obtain ⟨rfl, -⟩ := List.cons.inj hcons
        rw [hparse] at hparse'
        cases hparse'
        exact ⟨hmissing, hhost⟩

theorem Submission.of_target? (s : Submission) (host : String) (urls : List String)
    (h : s.target? = some (host, urls)) :
    urls = s.addresses ∧ urls ≠ [] ∧ s.HasHost host := by
  unfold target? at h
  split at h
  · cases h
  · rename_i first url rest hurls
    obtain ⟨haddresses, hparse⟩ := s.addresses_eq_cons first url rest hurls
    obtain ⟨found, hfound, hpair⟩ := Option.map_eq_some_iff.mp h
    obtain ⟨rfl, rfl⟩ := Prod.mk.inj hpair
    refine ⟨haddresses.symm, List.cons_ne_nil _ _, ?_⟩
    rcases Option.or_eq_some_iff.mp hfound with hown | ⟨hmissing, hderived⟩
    · exact Or.inl ((Payload.present?_eq_some_iff _ _).mp hown)
    · obtain ⟨host, hhost, rfl⟩ := Option.map_eq_some_iff.mp hderived
      exact Or.inr ⟨(Payload.present?_eq_none_iff _).mp hmissing,
        first, _, url, host, haddresses, hparse, hhost, rfl⟩

theorem Submission.HasHost.ne_empty {s : Submission} {host : String} (h : s.HasHost host) :
    host ≠ "" := by
  rcases h with ⟨own, -, hown, rfl⟩ | ⟨-, first, rest, url, found, -, hparse, hfound, rfl⟩
  · exact Text.trim_ne_empty own hown
  · exact Url.isFilled_of_parse first url hparse found hfound

theorem Submission.firstGiven?_key_eq_none_iff (s : Submission) (c : Config.IndexNow) :
    Config.firstGiven? [s.apiKey?, c.key?] = none ↔ s.LacksKey c := by
  simp [Config.firstGiven?_eq_none_iff, LacksKey]

/-! The payload. -/

namespace Payload

theorem IsFor.key_ne_empty {p : Payload} {s : Submission} {c : Config.IndexNow}
    (h : p.IsFor s c) : p.key ≠ "" := by
  obtain ⟨key, hkey, hp⟩ := h.key
  rw [hp]
  exact Text.trim_ne_empty key (Config.isAllBlank_of_firstGiven? _ key hkey)

theorem IsFor.keyLocation_ne_empty {p : Payload} {s : Submission} {c : Config.IndexNow}
    (h : p.IsFor s c) : p.keyLocation ≠ "" := by
  rw [h.keyLocation]
  cases hlocation : Config.firstGiven? [s.keyLocation?, c.keyLocation?] with
  | none => simp
  | some location => exact Text.trim_ne_empty _ (Config.isAllBlank_of_firstGiven? _ _ hlocation)

/-- The three ways a submission goes, by what it has; the last one gives its payload. -/
theorem resolve_cases (s : Submission) (c : Config.IndexNow) :
    (s.LacksTarget ∧ ∃ reason, resolve s c = .error (.invalidInput reason)) ∨
    (¬ s.LacksTarget ∧ s.LacksKey c ∧ resolve s c = .error (.missingCredential "IndexNow")) ∨
    (¬ s.LacksTarget ∧ ¬ s.LacksKey c ∧
      ∃ p, resolve s c = .ok p ∧ p.IsFor s c ∧ p.urls ≠ []) := by
  cases htarget : s.target? with
  | none => exact Or.inl ⟨s.target?_eq_none_iff.mp htarget, resolve_of_no_target s c htarget⟩
  | some target =>
    obtain ⟨host, urls⟩ := target
    obtain ⟨hurls, hfilled, hhost⟩ := s.of_target? host urls htarget
    have htargeted : ¬ s.LacksTarget := by
      rw [← s.target?_eq_none_iff, htarget]
      simp
    have hresolve := resolve_of_target s c host urls htarget _ (present?_or s.apiKey? c.key?)
    right
    cases hkey : Config.firstGiven? [s.apiKey?, c.key?] with
    | none =>
      rw [hkey, Option.map_none, Option.elim_none] at hresolve
      exact Or.inl ⟨htargeted, (s.firstGiven?_key_eq_none_iff c).mp hkey, hresolve⟩
    | some key =>
      have hkeyed : ¬ s.LacksKey c := by
        rw [← s.firstGiven?_key_eq_none_iff, hkey]
        simp
      rw [hkey, Option.map_some, Option.elim_some, present?_or] at hresolve
      refine Or.inr ⟨htargeted, hkeyed, _, hresolve, ?_, hfilled⟩
      exact { urls := hurls, host := hhost, key := ⟨key, hkey, rfl⟩, keyLocation := rfl }

/-- A submission is refused as it stands if and only if it lacks a target, it fails for want of a
key if and only if only that is missing, and in all other cases it gives the payload it asks for,
every part of which is filled. -/
theorem resolve_iff (s : Submission) (c : Config.IndexNow) :
    ((∃ reason, resolve s c = .error (.invalidInput reason)) ↔ s.LacksTarget) ∧
    ((∃ service, resolve s c = .error (.missingCredential service)) ↔
      ¬ s.LacksTarget ∧ s.LacksKey c) ∧
    ((∃ p, resolve s c = .ok p) ↔ ¬ s.LacksTarget ∧ ¬ s.LacksKey c) ∧
    ∀ p, resolve s c = .ok p → p.IsFor s c ∧
      p.urls ≠ [] ∧ p.host ≠ "" ∧ p.key ≠ "" ∧ p.keyLocation ≠ "" := by
  rcases resolve_cases s c with ⟨hlacks, reason, hresolve⟩ | ⟨hhas, hkey, hresolve⟩ |
    ⟨hhas, hkey, p, hresolve, hfor, hurls⟩
  · simp [hresolve, hlacks]
  · simp [hresolve, hhas, hkey]
  · simp only [hresolve, hhas, hkey]
    refine ⟨by simp, by simp, by simp, ?_⟩
    rintro _ ⟨⟩
    exact ⟨hfor, hurls, hfor.host.ne_empty, hfor.key_ne_empty, hfor.keyLocation_ne_empty⟩

/-- The first text is no address, and the second one is sent as it is. -/
example : (resolve { urls := ["/a", " HTTPS://B.org/a "], apiKey? := some " k " } {}).toOption =
    some ⟨"b.org", "k", "https://b.org/k.txt", ["HTTPS://B.org/a"]⟩ := by
  decide +kernel

end Payload

end IndexNow

end Crawlability
