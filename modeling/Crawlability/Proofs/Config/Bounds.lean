import Crawlability.Proofs.Config.Credentials

/-!
The bounds that a configuration keeps. The check accepts a configuration just if it keeps them, so
whatever is loaded from a file does. The environment replaces credentials only, of which the check
looks at none: under any environment a configuration is resolved just if its file can be loaded, and
it fails with the same error otherwise. The second check never has anything to say.
-/
namespace Crawlability.Config

/-- The text is an absolute address of the scheme http or https. -/
def IsWebAddress (text : String) : Prop :=
  ∃ url, Url.parse text = .ok url ∧ (url.scheme = "http" ∨ url.scheme = "https")

structure KeepsBounds (c : Config) : Prop where
  timeout_pos : 1 ≤ c.transport.timeoutSecs
  timeout_le : c.transport.timeoutSecs ≤ 300
  userAgent : Text.isAllBlank c.transport.userAgent = false
  indexNowEndpoint : IsWebAddress c.indexNow.endpoint
  maxRetries_le : c.indexNow.maxRetries ≤ 10
  perplexityEndpoint : IsWebAddress c.perplexity.endpoint

theorem Transport.check_eq_ok_iff (t : Transport) : t.check = .ok () ↔
    1 ≤ t.timeoutSecs ∧ t.timeoutSecs ≤ 300 ∧ Text.isAllBlank t.userAgent = false := by
  unfold Transport.check
  by_cases hout : t.timeoutSecs < 1 ∨ 300 < t.timeoutSecs
  · have hnot : ¬ (1 ≤ t.timeoutSecs ∧ t.timeoutSecs ≤ 300) := by omega
    simp only [Bool.or_eq_true, decide_eq_true_eq, hout, if_true, ← and_assoc, hnot, false_and,
      reduceCtorEq]
  · have hin : 1 ≤ t.timeoutSecs ∧ t.timeoutSecs ≤ 300 := by omega
    simp only [Bool.or_eq_true, decide_eq_true_eq, hout, if_false, hin, true_and]
    cases Text.isAllBlank t.userAgent <;> simp

theorem checkEndpoint_eq_ok_iff (field endpoint : String) :
    checkEndpoint field endpoint = .ok () ↔ IsWebAddress endpoint := by
  unfold checkEndpoint IsWebAddress
  cases hparse : Url.parse endpoint with
  | error e => simp
  | ok url =>
    by_cases hscheme : url.scheme = "http" ∨ url.scheme = "https"
    · simp [hscheme]
    · simp [hscheme]

theorem IndexNow.check_eq_ok_iff (s : IndexNow) :
    s.check = .ok () ↔ IsWebAddress s.endpoint ∧ s.maxRetries ≤ 10 := by
  rw [← checkEndpoint_eq_ok_iff "indexnow.endpoint", IndexNow.check]
  cases hendpoint : checkEndpoint "indexnow.endpoint" s.endpoint with
  | error e => simp
  | ok _ =>
    by_cases hretries : s.maxRetries ≤ 10
    · simp [hretries]
    · have hmany : 10 < s.maxRetries := by omega
      simp [hmany]

/-- The check accepts what keeps all bounds, and nothing else. -/
theorem check_eq_ok_iff (c : Config) : c.check = .ok () ↔ c.KeepsBounds := by
  have hsections : c.check = .ok () ↔
      c.transport.check = .ok () ∧ c.indexNow.check = .ok () ∧ c.perplexity.check = .ok () := by
    rw [check]
    cases htransport : c.transport.check with
    | error e => simp
    | ok _ => cases hindexNow : c.indexNow.check <;> simp
  rw [hsections, Transport.check_eq_ok_iff, IndexNow.check_eq_ok_iff, Perplexity.check,
    checkEndpoint_eq_ok_iff]
  constructor
  · intro h
    obtain ⟨⟨hpos, hle, hagent⟩, ⟨hindexNow, hretries⟩, hperplexity⟩ := h
    exact ⟨hpos, hle, hagent, hindexNow, hretries, hperplexity⟩
  · intro h
    exact ⟨⟨h.timeout_pos, h.timeout_le, h.userAgent⟩, ⟨h.indexNowEndpoint, h.maxRetries_le⟩,
      h.perplexityEndpoint⟩

/-- What keeps a file from being loaded. It is read, decoded, parsed and checked in this order, and
each step has an error of its own. -/
inductive LoadFails : FileContent → Error → Prop
  | unreadable (cause : Files.Error) : LoadFails (.error cause) (.unreadable cause)
  | notText (octets : List UInt8) (h : Text.Utf8.decode? octets = none) :
      LoadFails (.ok octets) (.unreadable .notText)
  | malformed (octets : List UInt8) (text : String)
      (htext : Text.Utf8.decode? octets = some text) (h : parse? text = none) :
      LoadFails (.ok octets) .malformed
  | outOfBounds (octets : List UInt8) (text : String) (c : Config) (e : Error)
      (htext : Text.Utf8.decode? octets = some text) (hconfig : parse? text = some c)
      (h : c.check = .error e) : LoadFails (.ok octets) e

theorem load_eq_error_iff (file : FileContent) (e : Error) :
    load file = .error e ↔ LoadFails file e := by
  constructor
  · fun_cases load file with
    | case1 cause =>
      intro h
      cases h
      exact .unreadable cause
    | case2 octets htext =>
      intro h
      cases h
      exact .notText octets htext
    | case3 octets text htext hconfig =>
      intro h
      cases h
      exact .malformed octets text htext hconfig
    | case4 octets text htext c hconfig fault hcheck =>
      intro h
      cases h
      exact .outOfBounds octets text c e htext hconfig hcheck
    | case5 =>
      intro h
      cases h
  · intro h
    cases h with
    | unreadable cause => rfl
    | notText octets h => simp only [load, h]
    | malformed octets text htext h => simp only [load, htext, h]
    | outOfBounds octets text c e htext hconfig h => simp only [load, htext, hconfig, h]

theorem load_eq_ok_iff (file : FileContent) (c : Config) : load file = .ok c ↔
    ∃ octets text, file = .ok octets ∧ Text.Utf8.decode? octets = some text ∧
      parse? text = some c ∧ c.KeepsBounds := by
  constructor
  · intro h
    have hbounds : c.KeepsBounds := (check_eq_ok_iff c).mp (check_of_load file c h)
    revert h
    fun_cases load file with
    | case5 octets text htext config hconfig hcheck =>
      intro h
      cases h
      exact ⟨octets, text, rfl, htext, hconfig, hbounds⟩
    | _ =>
      intro h
      cases h
  · intro h
    obtain ⟨octets, text, hfile, htext, hconfig, hbounds⟩ := h
    have hcheck : c.check = .ok () := (check_eq_ok_iff c).mpr hbounds
    simp only [load, hfile, htext, hconfig, hcheck]

theorem keepsBounds_overlay_iff (c : Config) (env : Environment) :
    (c.overlay env).KeepsBounds ↔ c.KeepsBounds := by
  rw [← check_eq_ok_iff, ← check_eq_ok_iff, check_overlay]

theorem keepsBounds_of_loaded (file? : Option FileContent) (c : Config)
    (h : loaded file? = .ok c) : c.KeepsBounds := by
  cases file? with
  | none =>
    cases h
    exact (check_eq_ok_iff _).mp check_default
  | some file => exact (check_eq_ok_iff c).mp (check_of_load file c h)

theorem resolve_eq_ok_iff (file? : Option FileContent) (env : Environment) (c : Config) :
    resolve file? env = .ok c ↔ ∃ base, loaded file? = .ok base ∧ base.overlay env = c := by
  rw [resolve_eq]
  cases loaded file? with
  | error e => simp [Except.map]
  | ok base => simp [Except.map]

theorem resolve_eq_error_iff (file? : Option FileContent) (env : Environment) (e : Error) :
    resolve file? env = .error e ↔ loaded file? = .error e := by
  rw [resolve_eq]
  cases loaded file? with
  | error e => simp [Except.map]
  | ok base => simp [Except.map]

/-- Whatever is loaded or resolved keeps all bounds. What fails to be resolved is a file that fails
to be loaded, and with the same error: the environment neither spoils nor mends anything. -/
theorem resolve_keepsBounds :
    (∀ c : Config, c.check = .ok () ↔ c.KeepsBounds) ∧
    (∀ (file : FileContent) (c : Config), load file = .ok c → c.KeepsBounds) ∧
    (∀ (file? : Option FileContent) (env : Environment) (c : Config),
      resolve file? env = .ok c → c.KeepsBounds) ∧
    (∀ (file : FileContent) (env : Environment) (e : Error),
      (resolve (some file) env = .error e ↔ load file = .error e) ∧
      (load file = .error e ↔ LoadFails file e)) ∧
    (∀ env : Environment, ∃ c, resolve none env = .ok c) ∧
    (∀ (file? : Option FileContent) (env : Environment) (base : Config),
      loaded file? = .ok base → (base.overlay env).check = .ok ()) ∧
    (∀ (c : Config) (env : Environment), (c.overlay env).KeepsBounds ↔ c.KeepsBounds) ∧
    ∀ (file : FileContent) (env : Environment),
      (∃ c, resolve (some file) env = .ok c) ↔ ∃ octets text c, file = .ok octets ∧
        Text.Utf8.decode? octets = some text ∧ parse? text = some c ∧ c.KeepsBounds := by
  refine ⟨check_eq_ok_iff, ?_, ?_, ?_, ?_, ?_, keepsBounds_overlay_iff, ?_⟩
  · intro file c h
    exact keepsBounds_of_loaded (some file) c h
  · intro file? env c h
    obtain ⟨base, hbase, hoverlay⟩ := (resolve_eq_ok_iff file? env c).mp h
    rw [← hoverlay, keepsBounds_overlay_iff]
    exact keepsBounds_of_loaded file? base hbase
  · intro file env e
    exact ⟨resolve_eq_error_iff (some file) env e, load_eq_error_iff file e⟩
  · intro env
    exact ⟨_, (resolve_eq_ok_iff none env _).mpr ⟨{}, rfl, rfl⟩⟩
  · intro file? env base hbase
    rw [check_overlay, check_eq_ok_iff]
    exact keepsBounds_of_loaded file? base hbase
  · intro file env
    constructor
    · intro h
      obtain ⟨c, hc⟩ := h
      obtain ⟨base, hbase, -⟩ := (resolve_eq_ok_iff (some file) env c).mp hc
      obtain ⟨octets, text, hparts⟩ := (load_eq_ok_iff file base).mp hbase
      exact ⟨octets, text, base, hparts⟩
    · intro h
      obtain ⟨octets, text, c, hparts⟩ := h
      have hload : load file = .ok c := (load_eq_ok_iff file c).mpr ⟨octets, text, hparts⟩
      exact ⟨c.overlay env, (resolve_eq_ok_iff (some file) env _).mpr ⟨c, hload, rfl⟩⟩

end Crawlability.Config
