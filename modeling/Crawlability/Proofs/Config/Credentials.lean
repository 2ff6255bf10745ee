import Crawlability.Config.Load
import Crawlability.IndexNow.Payload
import Crawlability.Proofs.Perplexity.Asking
import Crawlability.Proofs.Text.Trimming
import Crawlability.Proofs.Url.Reading

/-!
Where credentials come from. Each has three layers: the argument of a call, a variable of the
environment and the file. The environment is laid over the file once, and each service then looks
at the argument and at what came of that; both pass over blank texts, though each in a way of its
own. Together they take the first layer that is not blank.
-/
namespace Crawlability

/-- The text is not given, or there is nothing in it. -/
def Text.IsMissing (text? : Option String) : Prop :=
  ∀ text, text? = some text → isAllBlank text = true

namespace Config

/-- The first text of the layers that is there and not blank, as it is. -/
def firstGiven? (layers : List (Option String)) : Option String :=
  layers.findSome? fun layer? => layer?.filter (!Text.isAllBlank ·)

/-- All layers above the one that counts are missing or blank. -/
theorem firstGiven?_eq_some_iff (layers : List (Option String)) (text : String) :
    firstGiven? layers = some text ↔ ∃ above below, layers = above ++ some text :: below ∧
      Text.isAllBlank text = false ∧ ∀ other, some other ∈ above → Text.isAllBlank other = true := by
  simp only [firstGiven?, List.findSome?_eq_some_iff, Option.filter_eq_some_iff,
    Option.filter_eq_none_iff, Bool.not_eq_true', Bool.not_eq_false]
  constructor
  · rintro ⟨above, _, below, rfl, ⟨rfl, htext⟩, habove⟩
    exact ⟨above, below, rfl, htext, fun other hother => habove _ hother other rfl⟩
  · rintro ⟨above, below, rfl, htext, habove⟩
    refine ⟨above, some text, below, rfl, ⟨rfl, htext⟩, ?_⟩
    rintro _ hlayer other rfl
    exact habove other hlayer

theorem firstGiven?_eq_none_iff (layers : List (Option String)) :
    firstGiven? layers = none ↔ ∀ layer? ∈ layers, Text.IsMissing layer? := by
  simp [firstGiven?, Text.IsMissing, Option.filter_eq_none_iff]

theorem isAllBlank_of_firstGiven? (layers : List (Option String)) (text : String)
    (h : firstGiven? layers = some text) : Text.isAllBlank text = false := by
  obtain ⟨-, -, -, htext, -⟩ := (firstGiven?_eq_some_iff layers text).mp h
  exact htext

example : firstGiven? [some " ", none, some " k", some "l"] = some " k" := by decide

theorem firstGiven?_cons (layer? : Option String) (below : List (Option String)) :
    firstGiven? (layer? :: below) =
      (layer?.filter (!Text.isAllBlank ·)).or (firstGiven? below) := by
  rw [firstGiven?, List.findSome?_cons]
  cases layer?.filter (!Text.isAllBlank ·) <;> rfl

theorem firstGiven?_singleton (layer? : Option String) :
    firstGiven? [layer?] = layer?.filter (!Text.isAllBlank ·) := by
  rw [firstGiven?_cons]
  exact Option.or_none

/-- Two layers that were merged, the upper one unless it is blank, count as the two. -/
theorem firstGiven?_merged (argument? upper? lower? : Option String) :
    firstGiven? [argument?, (upper?.filter (!Text.isAllBlank ·)).or lower?] =
      firstGiven? [argument?, upper?, lower?] := by
  rw [firstGiven?_cons, firstGiven?_cons argument?, firstGiven?_cons upper?,
    firstGiven?_singleton, firstGiven?_singleton]
  cases upper? with
  | none => rfl
  | some text => cases h : Text.isAllBlank text <;> simp [Option.filter_some, h]

/-! The configuration that is in force. -/

/-- What the file has, or the default configuration if there is no file. -/
def loaded (file? : Option FileContent) : Except Error Config := (file?.map load).getD (.ok {})

theorem eq_ok_of_toOption {α : Type} (result : Except Error α) (a : α)
    (h : result.toOption = some a) : result = .ok a := by
  cases result with
  | error e => cases h
  | ok found => exact congrArg Except.ok (Option.some.inj h)

theorem check_default : ({} : Config).check = .ok () :=
  eq_ok_of_toOption _ () (by decide +kernel)

theorem check_of_load (file : FileContent) (base : Config) (h : load file = .ok base) :
    base.check = .ok () := by
  fun_cases load file with
  | case5 octets text htext config hconfig hcheck => simp_all [load]
  | _ => simp_all [load]

theorem check_overlay (c : Config) (env : Environment) : (c.overlay env).check = c.check := rfl

/-- The environment adds credentials only, which keep to no bounds: what can be loaded can be
resolved. -/
theorem resolve_eq (file? : Option FileContent) (env : Environment) :
    resolve file? env = (loaded file?).map (·.overlay env) := by
  unfold resolve loaded
  cases hbase : (file?.map load).getD (.ok {}) with
  | error e => rfl
  | ok base =>
    have hcheck : base.check = .ok () := by
      cases file? with
      | none =>
        cases hbase
        exact check_default
      | some file => exact check_of_load file base hbase
    simp only [check_overlay, hcheck]
    rfl

end Config

namespace IndexNow

/-- A service that trims passes over the same texts. -/
theorem Payload.present?_eq (text? : Option String) :
    present? text? = (text?.filter (!Text.isAllBlank ·)).map Text.trim := by
  cases text? with
  | none => rfl
  | some text => cases h : Text.isAllBlank text <;> simp [present?, Option.filter_some,
      Text.isEmpty_trim, h]

theorem Payload.present?_or (argument? fallback? : Option String) :
    (present? argument?).or (present? fallback?) =
      (Config.firstGiven? [argument?, fallback?]).map Text.trim := by
  rw [present?_eq, present?_eq, ← Option.map_or, Config.firstGiven?_cons,
    Config.firstGiven?_singleton]

/-- With the variable laid over the file, it takes the first of the three layers. -/
theorem Payload.present?_or_merged (argument? upper? lower? : Option String) :
    (present? argument?).or (present? ((upper?.filter (!Text.isAllBlank ·)).or lower?)) =
      (Config.firstGiven? [argument?, upper?, lower?]).map Text.trim := by
  rw [present?_or, Config.firstGiven?_merged]

/-- The host of a submission and its addresses, if it has both. They do not depend on the
configuration. -/
def Submission.target? (s : Submission) : Option (String × List String) :=
  match Payload.validUrls s.urls with
  | [] => none
  | (first, url) :: rest =>
    ((Payload.present? s.host?).or (url.host?.map Url.Host.text)).map fun host =>
      (host, first :: rest.map (·.1))

theorem Payload.resolve_of_no_target (s : Submission) (c : Config.IndexNow)
    (h : s.target? = none) : ∃ reason, resolve s c = .error (.invalidInput reason) := by
  unfold Submission.target? at h
  unfold resolve
  split
  · exact ⟨_, rfl⟩
  · rename_i first url rest hurls
    simp only [hurls, Option.map_eq_none_iff] at h
    rw [h]
    exact ⟨_, rfl⟩

/-- Past the target, a submission fails for want of a key only. -/
theorem Payload.resolve_of_target (s : Submission) (c : Config.IndexNow) (host : String)
    (urls : List String) (htarget : s.target? = some (host, urls)) (key? : Option String)
    (hkey : (present? s.apiKey?).or (present? c.key?) = key?) : resolve s c =
      key?.elim (.error (.missingCredential "IndexNow")) fun key => .ok {
        host, key, urls
        keyLocation := ((present? s.keyLocation?).or (present? c.keyLocation?)).getD
          ("https://" ++ host ++ "/" ++ key ++ ".txt") } := by
  unfold Submission.target? at htarget
  unfold resolve
  split
  · rename_i hurls
    simp [hurls] at htarget
  · rename_i first url rest hurls
    simp only [hurls, Option.map_eq_some_iff, Prod.mk.injEq] at htarget
    obtain ⟨_, hhost, rfl, rfl⟩ := htarget
    cases key? with
    | none => simp only [hhost, hkey, Option.elim_none]
    | some key => simp only [hhost, hkey, Option.elim_some]

end IndexNow

namespace Perplexity

theorem firstPresent?_merged (argument? upper? lower? : Option String) :
    firstPresent? argument? ((upper?.filter (!Text.isAllBlank ·)).or lower?) =
      Config.firstGiven? [argument?, upper?, lower?] := by
  rw [← Config.firstGiven?_merged, Config.firstGiven?_cons, Config.firstGiven?_singleton,
    firstPresent?]

end Perplexity

namespace Config

/-- A configuration is resolved whenever its file can be loaded, and then every credential is the
first of the argument, the variable and the value of the file that is not blank. A submission trims
it, a question takes it as it is; only the key has no default. -/
theorem resolve_credentials (file? : Option FileContent) (env : Environment) :
    (∀ e, loaded file? = .error e → resolve file? env = .error e) ∧
    ∀ base, loaded file? = .ok base → ∃ config, resolve file? env = .ok config ∧
      (∀ s : IndexNow.Submission,
        let key? := firstGiven? [s.apiKey?, env "INDEXNOW_KEY", base.indexNow.key?]
        let location? := firstGiven?
          [s.keyLocation?, env "INDEXNOW_KEY_LOCATION", base.indexNow.keyLocation?]
        (s.target? = none → ∃ reason,
          IndexNow.Payload.resolve s config.indexNow = .error (.invalidInput reason)) ∧
        ∀ host urls, s.target? = some (host, urls) →
          (key? = none → IndexNow.Payload.resolve s config.indexNow =
            .error (.missingCredential "IndexNow")) ∧
          ∀ key, key? = some key → IndexNow.Payload.resolve s config.indexNow = .ok {
            host, urls
            key := Text.trim key
            keyLocation := (location?.map Text.trim).getD
              ("https://" ++ host ++ "/" ++ Text.trim key ++ ".txt") }) ∧
      (∀ (http : Http.Client) (n : Network) (earlier : List Http.Request) (k : Perplexity.Check)
        (url : Url), Url.parse (Text.trim k.url) = .ok url →
        let asking := (Perplexity.Client.check ⟨http, config.perplexity⟩ k).run n earlier
        let key? := firstGiven? [k.apiKey?, env "PERPLEXITY_API_KEY", base.perplexity.apiKey?]
        let model? := firstGiven? [k.model?, env "PERPLEXITY_MODEL", base.perplexity.model?]
        (key? = none → asking = (.error (.missingCredential "Perplexity"), [])) ∧
        ∀ key, key? = some key → Session.requests asking.2 = [{
          method := .post, target := base.perplexity.endpoint, userAgent := http.userAgent,
          timeoutSecs := http.timeoutSecs, authorization? := some ("Bearer " ++ key),
          body? := some (Perplexity.ChatRequest.wire
            ⟨model?.getD "sonar-pro", [.ofUser (Perplexity.prompt url)]⟩) }]) ∧
      ∀ layers text, firstGiven? layers = some text ↔ ∃ above below,
        layers = above ++ some text :: below ∧ Text.isAllBlank text = false ∧
        ∀ other, some other ∈ above → Text.isAllBlank other = true := by
  rw [resolve_eq]
  refine ⟨?_, ?_⟩
  · intro e he
    rw [he]
    rfl
  · intro base hbase
    rw [hbase]
    refine ⟨base.overlay env, rfl, ?_, ?_, firstGiven?_eq_some_iff⟩
    · intro s key? location?
      refine ⟨IndexNow.Payload.resolve_of_no_target s _, ?_⟩
      intro host urls htarget
      have hkeys : (IndexNow.Payload.present? s.apiKey?).or
          (IndexNow.Payload.present? (base.overlay env).indexNow.key?) = key?.map Text.trim :=
        IndexNow.Payload.present?_or_merged _ _ _
      have hlocations : (IndexNow.Payload.present? s.keyLocation?).or
          (IndexNow.Payload.present? (base.overlay env).indexNow.keyLocation?) =
            location?.map Text.trim := IndexNow.Payload.present?_or_merged _ _ _
      rw [IndexNow.Payload.resolve_of_target s _ host urls htarget _ hkeys, hlocations]
      refine ⟨?_, ?_⟩
      · intro hkey
        rw [hkey, Option.map_none, Option.elim_none]
      · intro key hkey
        rw [hkey, Option.map_some, Option.elim_some]
    · intro http n earlier k url hurl asking key? model?
      have hkeys : Perplexity.firstPresent? k.apiKey? (base.overlay env).perplexity.apiKey? =
          key? := Perplexity.firstPresent?_merged _ _ _
      have hmodels : Perplexity.firstPresent? k.model? (base.overlay env).perplexity.model? =
          model? := Perplexity.firstPresent?_merged _ _ _
      refine ⟨?_, ?_⟩
      · intro hkey
        simp only [asking]
        rw [Perplexity.Client.check_of_no_key _ k url hurl (hkeys.trans hkey)]
        rfl
      · intro key hkey
        simp only [asking]
        rw [Perplexity.Client.check_of_key _ k url hurl key (hkeys.trans hkey), hmodels,
          ← Session.requests_snd_course, Perplexity.Client.requests_course_ask]
        rfl

/-- A file with keys and a model. A blank argument and a blank variable do not hide a key of the
file, and a variable goes before the model that the file has. -/
theorem resolve_credentials_of_file :
    let text := "[indexnow]\nkey = \" k \"\n[perplexity]\napi-key = \" p \"\nmodel = \"sonar\"\n"
    let file : FileContent := .ok (text.toList.map fun c => c.toNat.toUInt8)
    let env : Environment := fun name =>
      if name = "INDEXNOW_KEY" then some " \t"
      else if name = "PERPLEXITY_MODEL" then some "sonar-reasoning" else none
    let submission : IndexNow.Submission :=
      { urls := ["https://example.com/a"], apiKey? := some "" }
    let question : Perplexity.Check := { url := "https://example.com/a", apiKey? := some "\n" }
    let http : Http.Client := ⟨defaultUserAgent, 30⟩
    ∃ config url, resolve (some file) env = .ok config ∧
      Url.parse question.url = .ok url ∧
      IndexNow.Payload.resolve submission config.indexNow =
        .ok ⟨"example.com", "k", "https://example.com/k.txt", ["https://example.com/a"]⟩ ∧
      Session.requests ((Perplexity.Client.check ⟨http, config.perplexity⟩ question).run
          .unreachable []).2 = [{
        method := .post, target := "https://api.perplexity.ai/chat/completions"
        userAgent := defaultUserAgent, timeoutSecs := 30, authorization? := some "Bearer  p "
        body? := some (Perplexity.ChatRequest.wire
          ⟨"sonar-reasoning", [.ofUser (Perplexity.prompt url)]⟩) }] := by
  intro text file env submission question http
  let base : Config := {
    indexNow := { key? := some " k " }
    perplexity := { apiKey? := some " p ", model? := some "sonar" } }
  have hbase : loaded (some file) = .ok base := eq_ok_of_toOption _ base (by decide +kernel)
  have htrim : Text.trim question.url = question.url := by decide +kernel
  obtain ⟨url, hurl, -⟩ := Url.exists_of_map_toOption question.url (·.text)
    "https://example.com/a" (by decide +kernel)
  obtain ⟨-, hcredentials⟩ := resolve_credentials (some file) env
  obtain ⟨config, hconfig, hsubmission, hquestion, -⟩ := hcredentials base hbase
  obtain ⟨-, htarget⟩ := hsubmission submission
  obtain ⟨-, hpayload⟩ := htarget "example.com" ["https://example.com/a"] (by decide +kernel)
  have htrimmed : Url.parse (Text.trim question.url) = .ok url := by
    rw [htrim]
    exact hurl
  obtain ⟨-, hrequest⟩ := hquestion http .unreachable [] question url htrimmed
  have hlocation : firstGiven? [submission.keyLocation?, env "INDEXNOW_KEY_LOCATION",
      base.indexNow.keyLocation?] = none := by decide +kernel
  have hmodel : firstGiven? [question.model?, env "PERPLEXITY_MODEL", base.perplexity.model?] =
      some "sonar-reasoning" := by decide +kernel
  have hkey : Text.trim " k " = "k" := by decide +kernel
  have hbearer : "Bearer " ++ " p " = "Bearer  p " := by decide +kernel
  have hdefault : "https://" ++ "example.com" ++ "/" ++ "k" ++ ".txt" =
      "https://example.com/k.txt" := by decide +kernel
  refine ⟨config, url, hconfig, hurl, ?_, ?_⟩
  · rw [hpayload " k " (by decide +kernel), hlocation, hkey, Option.map_none, Option.getD_none,
      hdefault]
  · rw [hrequest " p " (by decide +kernel), hmodel, hbearer, Option.getD_some]

end Config

end Crawlability
