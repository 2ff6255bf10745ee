import Crawlability.Config.Document
import Mathlib.Data.Option.Basic

/-!
Where the values of a document go. A configuration consists of settings, each of which has a key in
a section, a type and a default. A document gives a setting a value or leaves it out, with its key
or with the whole section, and decoding looks at nothing else: every setting has the value that it
is given or its default, whatever the document says about the others and under other names.
-/
namespace Crawlability.Config

inductive Setting where
  | timeoutSecs
  | userAgent
  | indexNowEndpoint
  | indexNowKey
  | indexNowKeyLocation
  | maxRetries
  | baseDelayMs
  | perplexityEndpoint
  | perplexityKey
  | perplexityModel
  | logPath
deriving Repr, DecidableEq

/-- What a document has under a key in a section. -/
def fieldOf? (entries : List (String × Toml)) (name key : String) : Option Toml :=
  match Toml.lookup? entries name with
  | some (.table fields) => Toml.lookup? fields key
  | _ => none

namespace Setting

def sectionName : Setting → String
  | timeoutSecs | userAgent => "http"
  | indexNowEndpoint | indexNowKey | indexNowKeyLocation | maxRetries | baseDelayMs => "indexnow"
  | perplexityEndpoint | perplexityKey | perplexityModel => "perplexity"
  | logPath => "logging"

def key : Setting → String
  | timeoutSecs => "timeout-secs"
  | userAgent => "user-agent"
  | indexNowEndpoint | perplexityEndpoint => "endpoint"
  | indexNowKey => "key"
  | indexNowKeyLocation => "key-location"
  | maxRetries => "max-retries"
  | baseDelayMs => "base-delay-ms"
  | perplexityKey => "api-key"
  | perplexityModel => "model"
  | logPath => "path"

/-- The type of a setting that is a number of so many bits; all others are texts. -/
def bits? : Setting → Option Nat
  | timeoutSecs | baseDelayMs => some 64
  | maxRetries => some 32
  | _ => none

/-- The value has the type of the setting and is in its range. -/
def Admits (s : Setting) : Toml → Prop
  | .string _ => s.bits? = none
  | .integer n => ∃ bits ∈ s.bits?, 0 ≤ n ∧ n < Nat.pow 2 bits
  | _ => False

/-- The value of a setting, as a document gives it; there is none if it is not set. -/
def value? (s : Setting) (c : Config) : Option Toml :=
  match s with
  | timeoutSecs => some (.integer c.transport.timeoutSecs)
  | userAgent => some (.string c.transport.userAgent)
  | indexNowEndpoint => some (.string c.indexNow.endpoint)
  | indexNowKey => c.indexNow.key?.map .string
  | indexNowKeyLocation => c.indexNow.keyLocation?.map .string
  | maxRetries => some (.integer c.indexNow.maxRetries)
  | baseDelayMs => some (.integer c.indexNow.baseDelayMs)
  | perplexityEndpoint => some (.string c.perplexity.endpoint)
  | perplexityKey => c.perplexity.apiKey?.map .string
  | perplexityModel => c.perplexity.model?.map .string
  | logPath => c.logging.path?.map .string

def default? : Setting → Option Toml
  | timeoutSecs => some (.integer 30)
  | userAgent => some (.string "CrawlSignal/0.1.0")
  | indexNowEndpoint => some (.string "https://api.indexnow.org/indexnow")
  | maxRetries => some (.integer 4)
  | baseDelayMs => some (.integer 1000)
  | perplexityEndpoint => some (.string "https://api.perplexity.ai/chat/completions")
  | indexNowKey | indexNowKeyLocation | perplexityKey | perplexityModel | logPath => none

/-- What a document gives for the setting. -/
def given? (entries : List (String × Toml)) (s : Setting) : Option Toml :=
  fieldOf? entries s.sectionName s.key

/-- A document leaves a setting out. -/
inductive IsLeftOut (entries : List (String × Toml)) (s : Setting) : Prop
  | noSection (h : Toml.lookup? entries s.sectionName = none)
  | emptySection (h : Toml.lookup? entries s.sectionName = some (.table []))
  | noKey (fields : List (String × Toml))
      (hsection : Toml.lookup? entries s.sectionName = some (.table fields))
      (hkey : Toml.lookup? fields s.key = none)

end Setting

/-- The known sections of a document are tables, and its known keys have values of their types. Each
of them may be missing, and there may be any others. -/
structure IsTyped (entries : List (String × Toml)) : Prop where
  isTable : ∀ (s : Setting) (value : Toml), Toml.lookup? entries s.sectionName = some value →
    ∃ fields, value = .table fields
  admits : ∀ (s : Setting) (value : Toml), s.given? entries = some value → s.Admits value

namespace Setting

theorem value?_default (s : Setting) : s.value? {} = s.default? := by cases s <;> rfl

/-- No two settings share a key. -/
theorem names_injective : Function.Injective fun s : Setting => (s.sectionName, s.key) := by
  intro s t h
  cases s <;> cases t <;> first | rfl | exact absurd h (by decide)

/-- A configuration is nothing but its settings. -/
theorem eq_of_value?_eq (c d : Config) (h : ∀ s, value? s c = value? s d) : c = d := by
  have hnumber : ∀ m n : Nat, some (Toml.integer m) = some (Toml.integer n) → m = n := by
    intro m n h
    exact Int.ofNat.inj (Toml.integer.inj (Option.some.inj h))
  have htext : ∀ a b : String, some (Toml.string a) = some (Toml.string b) → a = b := by
    intro a b h
    exact Toml.string.inj (Option.some.inj h)
  have hoptional : Function.Injective (Option.map Toml.string) :=
    Option.map_injective fun _ _ => Toml.string.inj
  obtain ⟨⟨_, _⟩, ⟨_, _, _, _, _⟩, ⟨_, _, _⟩, ⟨_⟩⟩ := c
  obtain ⟨⟨_, _⟩, ⟨_, _, _, _, _⟩, ⟨_, _, _⟩, ⟨_⟩⟩ := d
  rw [mk.injEq, Transport.mk.injEq, IndexNow.mk.injEq, Perplexity.mk.injEq, Logging.mk.injEq]
  exact ⟨⟨hnumber _ _ (h timeoutSecs), htext _ _ (h userAgent)⟩,
    ⟨htext _ _ (h indexNowEndpoint), hoptional (h indexNowKey), hoptional (h indexNowKeyLocation),
      hnumber _ _ (h maxRetries), hnumber _ _ (h baseDelayMs)⟩,
    ⟨htext _ _ (h perplexityEndpoint), hoptional (h perplexityKey), hoptional (h perplexityModel)⟩,
    hoptional (h logPath)⟩

theorem given?_eq_none_iff (entries : List (String × Toml)) (h : IsTyped entries) (s : Setting) :
    s.given? entries = none ↔ s.IsLeftOut entries := by
  constructor
  · intro hnone
    cases hsection : Toml.lookup? entries s.sectionName with
    | none => exact .noSection hsection
    | some value =>
      obtain ⟨fields, rfl⟩ := h.isTable s value hsection
      simp only [given?, fieldOf?, hsection] at hnone
      exact .noKey fields hsection hnone
  · intro hout
    unfold given? fieldOf?
    cases hout with
    | noSection hsection => rw [hsection]
    | emptySection hsection =>
      rw [hsection]
      rfl
    | noKey fields hsection hkey =>
      rw [hsection]
      exact hkey

end Setting

/-! Reading a field: it has a value that is read, or its default. -/

theorem exists_fieldOr {α : Type} (default : α) (read? : Toml → Option α) (print? : α → Option Toml)
    (field? : Option Toml)
    (h : ∀ value, field? = some value → ∃ x, read? value = some x ∧ print? x = some value) :
    ∃ x, Toml.fieldOr default read? field? = some x ∧ print? x = field?.or (print? default) := by
  cases field? with
  | none => exact ⟨default, rfl, rfl⟩
  | some value => exact h value rfl

section Fields

variable (given? : Setting → Option Toml) (s : Setting)
  (h : ∀ value, given? s = some value → s.Admits value)
include h

theorem exists_number (bits : Nat) (hbits : s.bits? = some bits) (default : Nat) :
    ∃ n : Nat, Toml.fieldOr default (Toml.naturalBelow? (Nat.pow 2 bits)) (given? s) = some n ∧
      some (.integer n) = (given? s).or (some (.integer default)) := by
  refine exists_fieldOr default _ (fun n : Nat => some (.integer n)) (given? s) ?_
  intro value hvalue
  have hadmits : s.Admits value := h value hvalue
  cases value with
  | integer n =>
    obtain ⟨own, hown, hrange⟩ := hadmits
    obtain rfl : bits = own := Option.some.inj (hbits.symm.trans hown)
    refine ⟨n.toNat, if_pos ?_, ?_⟩
    · simpa using hrange
    · rw [Int.toNat_of_nonneg hrange.1]
  | string x => cases hbits.symm.trans hadmits
  | _ => exact hadmits.elim

theorem exists_string (htext : s.bits? = none) (value : Toml) (hvalue : given? s = some value) :
    ∃ x, value = .string x := by
  have hadmits : s.Admits value := h value hvalue
  cases value with
  | string x => exact ⟨x, rfl⟩
  | integer n =>
    obtain ⟨bits, hbits, -⟩ := hadmits
    cases htext.symm.trans hbits
  | _ => exact hadmits.elim

theorem exists_text (htext : s.bits? = none) (default : String) :
    ∃ x, Toml.fieldOr default Toml.text? (given? s) = some x ∧
      some (.string x) = (given? s).or (some (.string default)) := by
  refine exists_fieldOr default _ (fun x => some (.string x)) (given? s) ?_
  intro value hvalue
  obtain ⟨x, rfl⟩ := exists_string given? s h htext value hvalue
  exact ⟨x, rfl, rfl⟩

theorem exists_optionalText (htext : s.bits? = none) :
    ∃ x? : Option String, Toml.optionalText? (given? s) = some x? ∧
      x?.map .string = (given? s).or none := by
  refine exists_fieldOr none _ (Option.map .string) (given? s) ?_
  intro value hvalue
  obtain ⟨x, rfl⟩ := exists_string given? s h htext value hvalue
  exact ⟨some x, rfl, rfl⟩

end Fields

/-! Decoding by settings: each section has the values that are given for its own. -/

def Transport.ofSettings? (given? : Setting → Option Toml) : Option Transport := do
  let d : Transport := {}
  return {
    timeoutSecs := ← Toml.fieldOr d.timeoutSecs Toml.longWord? (given? .timeoutSecs)
    userAgent := ← Toml.fieldOr d.userAgent Toml.text? (given? .userAgent) }

def IndexNow.ofSettings? (given? : Setting → Option Toml) : Option IndexNow := do
  let d : IndexNow := {}
  return {
    endpoint := ← Toml.fieldOr d.endpoint Toml.text? (given? .indexNowEndpoint)
    key? := ← Toml.optionalText? (given? .indexNowKey)
    keyLocation? := ← Toml.optionalText? (given? .indexNowKeyLocation)
    maxRetries := ← Toml.fieldOr d.maxRetries Toml.word? (given? .maxRetries)
    baseDelayMs := ← Toml.fieldOr d.baseDelayMs Toml.longWord? (given? .baseDelayMs) }

def Perplexity.ofSettings? (given? : Setting → Option Toml) : Option Perplexity := do
  let d : Perplexity := {}
  return {
    endpoint := ← Toml.fieldOr d.endpoint Toml.text? (given? .perplexityEndpoint)
    apiKey? := ← Toml.optionalText? (given? .perplexityKey)
    model? := ← Toml.optionalText? (given? .perplexityModel) }

def Logging.ofSettings? (given? : Setting → Option Toml) : Option Logging := do
  return { path? := ← Toml.optionalText? (given? .logPath) }

def ofSettings? (given? : Setting → Option Toml) : Option Config := do
  return {
    transport := ← Transport.ofSettings? given?
    indexNow := ← IndexNow.ofSettings? given?
    perplexity := ← Perplexity.ofSettings? given?
    logging := ← Logging.ofSettings? given? }

/-- A decoder of sections that passes over unknown keys, and for which a missing section is one
without keys, sees what is given for the settings. -/
theorem ofToml?_eq_ofSettings? {σ : Type} (entries : List (String × Toml)) (h : IsTyped entries)
    (s : Setting) (ofToml? : Option Toml → Option σ)
    (ofSettings? : (Setting → Option Toml) → Option σ)
    (hnone : ofToml? none = ofSettings? fun _ => none)
    (htable : ∀ fields, ofToml? (some (.table fields)) = ofSettings? (Toml.lookup? fields ·.key)) :
    ofToml? (Toml.lookup? entries s.sectionName) =
      ofSettings? (fieldOf? entries s.sectionName ·.key) := by
  unfold fieldOf?
  cases hsection : Toml.lookup? entries s.sectionName with
  | none => exact hnone
  | some value =>
    obtain ⟨fields, rfl⟩ := h.isTable s value hsection
    exact htable fields

theorem ofEntries?_eq_ofSettings? (entries : List (String × Toml)) (h : IsTyped entries) :
    ofEntries? entries = ofSettings? (Setting.given? entries) := by
  have htransport := ofToml?_eq_ofSettings? entries h .timeoutSecs
    Transport.ofToml? Transport.ofSettings? rfl fun _ => rfl
  have hindexNow := ofToml?_eq_ofSettings? entries h .maxRetries
    IndexNow.ofToml? IndexNow.ofSettings? rfl fun _ => rfl
  have hperplexity := ofToml?_eq_ofSettings? entries h .perplexityModel
    Perplexity.ofToml? Perplexity.ofSettings? rfl fun _ => rfl
  have hlogging := ofToml?_eq_ofSettings? entries h .logPath
    Logging.ofToml? Logging.ofSettings? rfl fun _ => rfl
  simp only [Setting.sectionName] at htransport hindexNow hperplexity hlogging
  rw [ofEntries?, htransport, hindexNow, hperplexity, hlogging]
  rfl

section Sections

variable (given? : Setting → Option Toml)
  (h : ∀ s value, given? s = some value → s.Admits value)
include h

theorem Transport.exists_ofSettings? : ∃ t : Transport, ofSettings? given? = some t ∧
    some (.integer t.timeoutSecs) = (given? .timeoutSecs).or (Setting.default? .timeoutSecs) ∧
    some (.string t.userAgent) = (given? .userAgent).or (Setting.default? .userAgent) := by
  obtain ⟨secs, hsecs, hsecs'⟩ := exists_number given? .timeoutSecs (h _) 64 rfl 30
  obtain ⟨agent, hagent, hagent'⟩ := exists_text given? .userAgent (h _) rfl defaultUserAgent
  refine ⟨⟨secs, agent⟩, ?_, hsecs', hagent'⟩
  simp only [ofSettings?, Toml.longWord?, hsecs, hagent]
  rfl

theorem IndexNow.exists_ofSettings? : ∃ i : IndexNow, ofSettings? given? = some i ∧
    some (.string i.endpoint) =
      (given? .indexNowEndpoint).or (Setting.default? .indexNowEndpoint) ∧
    i.key?.map .string = (given? .indexNowKey).or (Setting.default? .indexNowKey) ∧
    i.keyLocation?.map .string =
      (given? .indexNowKeyLocation).or (Setting.default? .indexNowKeyLocation) ∧
    some (.integer i.maxRetries) = (given? .maxRetries).or (Setting.default? .maxRetries) ∧
    some (.integer i.baseDelayMs) = (given? .baseDelayMs).or (Setting.default? .baseDelayMs) := by
  obtain ⟨endpoint, hendpoint, hendpoint'⟩ :=
    exists_text given? .indexNowEndpoint (h _) rfl ({} : IndexNow).endpoint
  obtain ⟨key?, hkey, hkey'⟩ := exists_optionalText given? .indexNowKey (h _) rfl
  obtain ⟨location?, hlocation, hlocation'⟩ :=
    exists_optionalText given? .indexNowKeyLocation (h _) rfl
  obtain ⟨retries, hretries, hretries'⟩ := exists_number given? .maxRetries (h _) 32 rfl 4
  obtain ⟨delay, hdelay, hdelay'⟩ := exists_number given? .baseDelayMs (h _) 64 rfl 1000
  refine ⟨⟨endpoint, key?, location?, retries, delay⟩, ?_, hendpoint', hkey', hlocation',
    hretries', hdelay'⟩
  simp only [ofSettings?, Toml.word?, Toml.longWord?, hendpoint, hkey, hlocation, hretries, hdelay]
  rfl

theorem Perplexity.exists_ofSettings? : ∃ p : Perplexity, ofSettings? given? = some p ∧
    some (.string p.endpoint) =
      (given? .perplexityEndpoint).or (Setting.default? .perplexityEndpoint) ∧
    p.apiKey?.map .string = (given? .perplexityKey).or (Setting.default? .perplexityKey) ∧
    p.model?.map .string = (given? .perplexityModel).or (Setting.default? .perplexityModel) := by
  obtain ⟨endpoint, hendpoint, hendpoint'⟩ :=
    exists_text given? .perplexityEndpoint (h _) rfl ({} : Perplexity).endpoint
  obtain ⟨key?, hkey, hkey'⟩ := exists_optionalText given? .perplexityKey (h _) rfl
  obtain ⟨model?, hmodel, hmodel'⟩ := exists_optionalText given? .perplexityModel (h _) rfl
  refine ⟨⟨endpoint, key?, model?⟩, ?_, hendpoint', hkey', hmodel'⟩
  simp only [ofSettings?, hendpoint, hkey, hmodel]
  rfl

theorem Logging.exists_ofSettings? : ∃ l : Logging, ofSettings? given? = some l ∧
    l.path?.map .string = (given? .logPath).or (Setting.default? .logPath) := by
  obtain ⟨path?, hpath, hpath'⟩ := exists_optionalText given? .logPath (h _) rfl
  refine ⟨⟨path?⟩, ?_, hpath'⟩
  simp only [ofSettings?, hpath]
  rfl

/-- Values of the right types make a configuration. -/
theorem exists_ofSettings? : ∃ c, ofSettings? given? = some c ∧
    ∀ s : Setting, s.value? c = (given? s).or s.default? := by
  obtain ⟨transport, htransport, hsecs, hagent⟩ := Transport.exists_ofSettings? given? h
  obtain ⟨indexNow, hindexNow, hendpoint, hkey, hlocation, hretries, hdelay⟩ :=
    IndexNow.exists_ofSettings? given? h
  obtain ⟨perplexity, hperplexity, haddress, hapiKey, hmodel⟩ :=
    Perplexity.exists_ofSettings? given? h
  obtain ⟨logging, hlogging, hpath⟩ := Logging.exists_ofSettings? given? h
  refine ⟨⟨transport, indexNow, perplexity, logging⟩, ?_, ?_⟩
  · simp only [ofSettings?, htransport, hindexNow, hperplexity, hlogging]
    rfl
  · intro s
    cases s <;> assumption

end Sections

theorem exists_value?_eq (entries : List (String × Toml)) (h : IsTyped entries) :
    ∃ c, ofEntries? entries = some c ∧
      ∀ s : Setting, s.value? c = (s.given? entries).or s.default? := by
  rw [ofEntries?_eq_ofSettings? entries h]
  exact exists_ofSettings? (Setting.given? entries) h.admits

/-- A typed document makes a configuration in which every setting that it gives has this value and
every other one has its default, in whichever way it is left out. The value of a setting depends on
nothing else in the document, and the settings are all that there is in a configuration. -/
theorem ofEntries?_settings (entries : List (String × Toml)) (h : IsTyped entries) :
    ∃ c, ofEntries? entries = some c ∧
      (∀ text, Toml.parse? text = some entries → parse? text = some c) ∧
      (∀ (s : Setting) (value : Toml), s.given? entries = some value → s.value? c = some value) ∧
      (∀ s : Setting, s.given? entries = none → s.value? c = s.default?) ∧
      (∀ s : Setting, s.given? entries = none ↔ s.IsLeftOut entries) ∧
      (∀ (s : Setting) (others : List (String × Toml)) (d : Config), IsTyped others →
        ofEntries? others = some d → s.given? others = s.given? entries →
          s.value? d = s.value? c) ∧
      (∀ s : Setting, s.value? {} = s.default?) ∧
      (Function.Injective fun s : Setting => (s.sectionName, s.key)) ∧
      ∀ d : Config, (∀ s : Setting, s.value? d = s.value? c) → d = c := by
  obtain ⟨c, hc, hvalue⟩ := exists_value?_eq entries h
  refine ⟨c, hc, ?_, ?_, ?_, Setting.given?_eq_none_iff entries h, ?_,
    Setting.value?_default, Setting.names_injective, fun d => Setting.eq_of_value?_eq d c⟩
  · intro text htext
    rw [parse?, htext, Option.bind_some, hc]
  · intro s value hgiven
    rw [hvalue, hgiven, Option.some_or]
  · intro s hgiven
    rw [hvalue, hgiven, Option.none_or]
  · intro s others d hothers hd hgiven
    obtain ⟨e, he, hvalue'⟩ := exists_value?_eq others hothers
    obtain rfl : d = e := Option.some.inj (hd.symm.trans he)
    rw [hvalue, hvalue', hgiven]

/-- One key of a section that has an unknown one too, an empty section and an unknown one. -/
theorem ofEntries?_settings_of_one_key :
    let entries : List (String × Toml) := [
      ("http", .table [("user-agent", .string "probe/1"), ("retries", .boolean true)]),
      ("proxy", .array []), ("indexnow", .table [])]
    IsTyped entries ∧ ∃ c, ofEntries? entries = some c ∧
      Setting.userAgent.value? c = some (.string "probe/1") ∧
      ∀ s, s ≠ Setting.userAgent → s.value? c = s.default? := by
  intro entries
  -- Of the known sections two are there, and of the known keys one.
  have htyped : IsTyped entries := by
    constructor
    · intro s value hsection
      cases s <;> cases hsection <;> exact ⟨_, rfl⟩
    · intro s value hgiven
      cases s <;> cases hgiven
      rfl
  obtain ⟨c, hc, -, hgiven, hdefault, -⟩ := ofEntries?_settings entries htyped
  refine ⟨htyped, c, hc, hgiven .userAgent _ rfl, ?_⟩
  intro s hs
  apply hdefault
  cases s <;> first | rfl | exact absurd rfl hs

/-- A text that spells such a table. -/
example : parse? "[http]\nuser-agent = 'probe/1'\nretries = true\n[proxy]\n[indexnow]\n" =
    some { transport := { userAgent := "probe/1" } } := by
  decide +kernel

end Crawlability.Config
