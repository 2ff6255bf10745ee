import Crawlability.Tool.Registry

/-!
The arguments of a tool are described twice: by a table of parameters, which the check goes through,
and by a record, which the operation reads. Here is what both mean, as a relation between the
members of an object and the record that they spell. The check passes exactly those objects that
spell a record, and the record is then the one that is read. So nothing that passes the check is
refused when it is read.
-/
namespace Crawlability

namespace Json

/-- What a member gives that may be missing or null, its value being spelt as `spell` says. -/
inductive Gives {α : Type} (spell : α → Json) : Option Json → Option α → Prop
  | missing : Gives spell none none
  | null : Gives spell (some .null) none
  | value (a : α) : Gives spell (some (spell a)) (some a)

theorem gives_map {α : Type} (spell : α → Json) (a? : Option α) :
    Gives spell (a?.map spell) a? := by
  cases a? with
  | none => exact .missing
  | some a => exact .value a

/-- The texts that a member gives: a single text stands for a list of one. -/
inductive GivesTexts : Option Json → List String → Prop
  | one (text : String) : GivesTexts (some (.string text)) [text]
  | many (texts : List String) : GivesTexts (some (.array (texts.map .string))) texts

theorem string?_eq_some_iff (v : Json) (text : String) :
    v.string? = some text ↔ v = .string text := by
  cases v <;> simp [string?]

theorem bool?_eq_some_iff (v : Json) (b : Bool) : v.bool? = some b ↔ v = .bool b := by
  cases v <;> simp [bool?]

theorem mapM_string?_eq_some_iff (items : List Json) (texts : List String) :
    items.mapM string? = some texts ↔ items = texts.map .string := by
  induction items generalizing texts with
  | nil => cases texts <;> simp
  | cons item items ih =>
    rw [List.mapM_cons]
    simp only [Option.bind_eq_bind, Option.bind_eq_some_iff, Option.pure_def, Option.some.injEq,
      string?_eq_some_iff, ih]
    constructor
    · rintro ⟨text, rfl, rest, rfl, rfl⟩
      rfl
    · intro h
      cases texts with
      | nil => cases h
      | cons text rest =>
        obtain ⟨rfl, rfl⟩ := List.cons.inj h
        exact ⟨text, rfl, rest, rfl, rfl⟩

theorem isSome_mapM_string? (items : List Json) :
    (items.mapM string?).isSome = items.all fun item => item.string?.isSome := by
  induction items with
  | nil => rfl
  | cons item items ih =>
    rw [List.mapM_cons, List.all_cons, ← ih]
    cases item.string? <;> cases items.mapM string? <;> rfl

theorem textOrTexts?_eq_some_iff (v : Json) (texts : List String) :
    v.textOrTexts? = some texts ↔ GivesTexts (some v) texts := by
  constructor
  · intro h
    cases v with
    | string text =>
      rw [← Option.some.inj h]
      exact GivesTexts.one text
    | array items =>
      rw [(mapM_string?_eq_some_iff items texts).mp h]
      exact GivesTexts.many texts
    | _ => cases h
  · intro h
    cases h with
    | one text => rfl
    | many texts => exact (mapM_string?_eq_some_iff _ texts).mpr rfl

theorem required?_eq_some_iff {α : Type} (read? : Json → Option α) (field? : Option Json) (a : α) :
    required? read? field? = some a ↔ ∃ v, field? = some v ∧ read? v = some a :=
  Option.bind_eq_some_iff

theorem optional?_eq_some_iff {α : Type} (read? : Json → Option α) (spell : α → Json)
    (hread : ∀ v a, read? v = some a ↔ v = spell a) (hnull : ∀ a, spell a ≠ .null)
    (field? : Option Json) (a? : Option α) :
    optional? read? field? = some a? ↔ Gives spell field? a? := by
  constructor
  · intro h
    unfold optional? at h
    split at h
    · rw [← Option.some.inj h]
      exact Gives.missing
    · rw [← Option.some.inj h]
      exact Gives.null
    · obtain ⟨a, ha, rfl⟩ := Option.map_eq_some_iff.mp h
      rw [(hread _ a).mp ha]
      exact Gives.value a
  · intro h
    cases h with
    | missing => rfl
    | null => rfl
    | value a =>
      have ha : read? (spell a) = some a := (hread _ a).mpr rfl
      have hne := hnull a
      unfold optional?
      split <;> simp_all

end Json

namespace Tool

/-- What a tool is asked to do. -/
def Request : Tool → Type
  | submitUrls => IndexNow.Submission
  | checkPerplexity => Perplexity.Check
  | auditPage => Audit.Inquiry

/-- The record that the operation behind a tool reads from its arguments. -/
def request? : (t : Tool) → Json → Option t.Request
  | submitUrls => IndexNow.Submission.ofJson?
  | checkPerplexity => Perplexity.Check.ofJson?
  | auditPage => Audit.Inquiry.ofJson?

/-- The members, by their names, spell the record. -/
def Spells (member? : String → Option Json) : (t : Tool) → t.Request → Prop
  | submitUrls, (s : IndexNow.Submission) =>
    Json.GivesTexts (member? "urls") s.urls ∧ Json.Gives .string (member? "host") s.host? ∧
      Json.Gives .string (member? "apiKey") s.apiKey? ∧
      Json.Gives .string (member? "keyLocation") s.keyLocation?
  | checkPerplexity, (k : Perplexity.Check) =>
    member? "url" = some (.string k.url) ∧ Json.Gives .string (member? "apiKey") k.apiKey? ∧
      Json.Gives .string (member? "model") k.model?
  | auditPage, (i : Audit.Inquiry) =>
    member? "url" = some (.string i.url) ∧
      Json.Gives .bool (member? "checkRobotsTxt") i.checkRobotsTxt?

theorem optional_string?_eq_some_iff (field? : Option Json) (text? : Option String) :
    Json.optional? Json.string? field? = some text? ↔ Json.Gives .string field? text? :=
  Json.optional?_eq_some_iff Json.string? .string Json.string?_eq_some_iff (by simp) field? text?

theorem optional_bool?_eq_some_iff (field? : Option Json) (b? : Option Bool) :
    Json.optional? Json.bool? field? = some b? ↔ Json.Gives .bool field? b? :=
  Json.optional?_eq_some_iff Json.bool? .bool Json.bool?_eq_some_iff (by simp) field? b?

theorem required_string?_eq_some_iff (field? : Option Json) (text : String) :
    Json.required? Json.string? field? = some text ↔ field? = some (.string text) := by
  rw [Json.required?_eq_some_iff]
  simp only [Json.string?_eq_some_iff, exists_eq_right]

theorem required_textOrTexts?_eq_some_iff (field? : Option Json) (texts : List String) :
    Json.required? Json.textOrTexts? field? = some texts ↔ Json.GivesTexts field? texts := by
  rw [Json.required?_eq_some_iff]
  simp only [Json.textOrTexts?_eq_some_iff]
  constructor
  · rintro ⟨v, rfl, h⟩
    exact h
  · intro h
    cases h with
    | one text => exact ⟨_, rfl, .one text⟩
    | many texts => exact ⟨_, rfl, .many texts⟩

theorem submission_ofJson?_eq_some_iff (members : List (String × Json))
    (s : IndexNow.Submission) : IndexNow.Submission.ofJson? (.object members) = some s ↔
      Spells (Json.lookup? members) submitUrls s := by
  obtain ⟨urls, host?, apiKey?, keyLocation?⟩ := s
  simp only [IndexNow.Submission.ofJson?, Json.fields?, Option.bind_eq_bind, Option.bind_some,
    Option.bind_eq_some_iff, Option.pure_def, Option.some.injEq, IndexNow.Submission.mk.injEq,
    required_textOrTexts?_eq_some_iff, optional_string?_eq_some_iff, Spells]
  constructor
  · rintro ⟨_, hurls, _, hhost, _, hkey, _, hlocation, rfl, rfl, rfl, rfl⟩
    exact ⟨hurls, hhost, hkey, hlocation⟩
  · rintro ⟨hurls, hhost, hkey, hlocation⟩
    exact ⟨_, hurls, _, hhost, _, hkey, _, hlocation, rfl, rfl, rfl, rfl⟩

theorem check_ofJson?_eq_some_iff (members : List (String × Json)) (k : Perplexity.Check) :
    Perplexity.Check.ofJson? (.object members) = some k ↔
      Spells (Json.lookup? members) checkPerplexity k := by
  obtain ⟨url, apiKey?, model?⟩ := k
  simp only [Perplexity.Check.ofJson?, Json.fields?, Option.bind_eq_bind, Option.bind_some,
    Option.bind_eq_some_iff, Option.pure_def, Option.some.injEq, Perplexity.Check.mk.injEq,
    required_string?_eq_some_iff, optional_string?_eq_some_iff, Spells]
  constructor
  · rintro ⟨_, hurl, _, hkey, _, hmodel, rfl, rfl, rfl⟩
    exact ⟨hurl, hkey, hmodel⟩
  · rintro ⟨hurl, hkey, hmodel⟩
    exact ⟨_, hurl, _, hkey, _, hmodel, rfl, rfl, rfl⟩

theorem inquiry_ofJson?_eq_some_iff (members : List (String × Json)) (i : Audit.Inquiry) :
    Audit.Inquiry.ofJson? (.object members) = some i ↔
      Spells (Json.lookup? members) auditPage i := by
  obtain ⟨url, checkRobotsTxt?⟩ := i
  simp only [Audit.Inquiry.ofJson?, Json.fields?, Option.bind_eq_bind, Option.bind_some,
    Option.bind_eq_some_iff, Option.pure_def, Option.some.injEq, Audit.Inquiry.mk.injEq,
    required_string?_eq_some_iff, optional_bool?_eq_some_iff, Spells]
  constructor
  · rintro ⟨_, hurl, _, hcheck, rfl, rfl⟩
    exact ⟨hurl, hcheck⟩
  · rintro ⟨hurl, hcheck⟩
    exact ⟨_, hurl, _, hcheck, rfl, rfl⟩

/-- An object is read as the record that its members spell. -/
theorem request?_object_eq_some_iff (t : Tool) (members : List (String × Json))
    (request : t.Request) : t.request? (.object members) = some request ↔
      t.Spells (Json.lookup? members) request := by
  cases t with
  | submitUrls => exact submission_ofJson?_eq_some_iff members request
  | checkPerplexity => exact check_ofJson?_eq_some_iff members request
  | auditPage => exact inquiry_ofJson?_eq_some_iff members request

/-- What is neither an object nor an array spells no record. -/
theorem request?_eq_none (t : Tool) (args : Json) (hobject : ∀ members, args ≠ .object members)
    (harray : ∀ items, args ≠ .array items) : t.request? args = none := by
  cases args with
  | object members => exact absurd rfl (hobject members)
  | array items => exact absurd rfl (harray items)
  | _ => cases t <;> rfl

/-! The check, parameter by parameter. -/

/-- The value is one of the kind. -/
def ParamKind.IsValue : ParamKind → Json → Prop
  | text, v => ∃ s, v = .string s
  | boolean, v => ∃ b, v = .bool b
  | texts, v => ∃ list, Json.GivesTexts (some v) list

theorem accepts_iff (kind : ParamKind) (v : Json) : kind.accepts v = true ↔ kind.IsValue v := by
  cases kind with
  | text => cases v <;> simp [ParamKind.accepts, ParamKind.IsValue]
  | boolean => cases v <;> simp [ParamKind.accepts, ParamKind.IsValue]
  | texts =>
    simp only [ParamKind.IsValue, ← Json.textOrTexts?_eq_some_iff, ← Option.isSome_iff_exists]
    cases v with
    | array items => simp [ParamKind.accepts, Json.textOrTexts?, Json.isSome_mapM_string?]
    | _ => simp [ParamKind.accepts, Json.textOrTexts?]

theorem not_isValue_null (kind : ParamKind) : ¬ kind.IsValue .null := by
  rw [← accepts_iff]
  cases kind <;> simp [ParamKind.accepts]

/-- Nothing is wrong with a value of the kind, nor with a parameter that is left out and may be. -/
theorem fault?_eq_none_iff (p : Param) (v? : Option Json) : p.fault? v? = none ↔
    (∃ v, v? = some v ∧ p.kind.IsValue v) ∨
      p.isRequired = false ∧ (v? = none ∨ v? = some .null) := by
  unfold Param.fault?
  split
  · simp
  · simp [not_isValue_null]
  · rename_i v hnull
    have hne : v ≠ .null := hnull
    simp [accepts_iff, hne]

theorem validate_eq_ok_iff (s : Spec) (args : Json) : s.validate args = .ok () ↔
    ∃ members, Spec.members? args = some members ∧
      ∀ p ∈ s.params, p.fault? (Json.lookup? members p.name) = none := by
  unfold Spec.validate
  cases Spec.members? args with
  | none => simp
  | some members =>
    simp only [Option.some.injEq, exists_eq_left', ← List.findSome?_eq_none_iff]
    cases s.params.findSome? fun p => p.fault? (Json.lookup? members p.name) <;> simp

theorem exists_gives_iff {α : Type} (spell : α → Json) (v? : Option Json) :
    (∃ a?, Json.Gives spell v? a?) ↔
      (∃ v, v? = some v ∧ ∃ a, v = spell a) ∨ v? = none ∨ v? = some .null := by
  constructor
  · rintro ⟨a?, h⟩
    cases h with
    | missing => exact Or.inr (Or.inl rfl)
    | null => exact Or.inr (Or.inr rfl)
    | value a => exact Or.inl ⟨_, rfl, a, rfl⟩
  · rintro (⟨_, rfl, a, rfl⟩ | rfl | rfl)
    · exact ⟨some a, .value a⟩
    · exact ⟨none, .missing⟩
    · exact ⟨none, .null⟩

theorem exists_givesTexts_iff (v? : Option Json) : (∃ texts, Json.GivesTexts v? texts) ↔
    ∃ v, v? = some v ∧ ∃ texts, Json.GivesTexts (some v) texts := by
  constructor
  · rintro ⟨texts, h⟩
    cases h with
    | one text => exact ⟨_, rfl, _, .one text⟩
    | many texts => exact ⟨_, rfl, _, .many texts⟩
  · rintro ⟨v, rfl, h⟩
    exact h

/-- The table of a tool finds no fault with exactly those members that spell a record. -/
theorem faultless_iff_spells (t : Tool) (member? : String → Option Json) :
    (∀ p ∈ t.spec.params, p.fault? (member? p.name) = none) ↔
      ∃ request, t.Spells member? request := by
  cases t with
  | submitUrls =>
    simp only [spec, Spec.submitUrls, List.forall_mem_cons, fault?_eq_none_iff, ParamKind.IsValue,
      Bool.true_eq_false, true_and, false_and, or_false, ← exists_gives_iff,
      ← exists_givesTexts_iff]
    constructor
    · rintro ⟨⟨urls, hurls⟩, ⟨host?, hhost⟩, ⟨apiKey?, hkey⟩, ⟨keyLocation?, hlocation⟩, -⟩
      exact ⟨(⟨urls, host?, apiKey?, keyLocation?⟩ : IndexNow.Submission), hurls, hhost, hkey,
        hlocation⟩
    · rintro ⟨s, hurls, hhost, hkey, hlocation⟩
      exact ⟨⟨_, hurls⟩, ⟨_, hhost⟩, ⟨_, hkey⟩, ⟨_, hlocation⟩, by simp⟩
  | checkPerplexity =>
    simp only [spec, Spec.checkPerplexity, List.forall_mem_cons, fault?_eq_none_iff,
      ParamKind.IsValue, Bool.true_eq_false, true_and, false_and, or_false, ← exists_gives_iff]
    constructor
    · rintro ⟨⟨v, hv, url, rfl⟩, ⟨apiKey?, hkey⟩, ⟨model?, hmodel⟩, -⟩
      exact ⟨(⟨url, apiKey?, model?⟩ : Perplexity.Check), hv, hkey, hmodel⟩
    · rintro ⟨k, hurl, hkey, hmodel⟩
      exact ⟨⟨_, hurl, _, rfl⟩, ⟨_, hkey⟩, ⟨_, hmodel⟩, by simp⟩
  | auditPage =>
    simp only [spec, Spec.auditPage, List.forall_mem_cons, fault?_eq_none_iff, ParamKind.IsValue,
      Bool.true_eq_false, true_and, false_and, or_false, ← exists_gives_iff]
    constructor
    · rintro ⟨⟨v, hv, url, rfl⟩, ⟨checkRobotsTxt?, hcheck⟩, -⟩
      exact ⟨(⟨url, checkRobotsTxt?⟩ : Audit.Inquiry), hv, hcheck⟩
    · rintro ⟨i, hurl, hcheck⟩
      exact ⟨⟨_, hurl, _, rfl⟩, ⟨_, hcheck⟩, by simp⟩

/-- Every tool has a parameter that has to be there. -/
theorem not_spells_nil (t : Tool) (request : t.Request) :
    ¬ t.Spells (Json.lookup? []) request := by
  intro h
  cases t with
  | submitUrls => cases h.1
  | checkPerplexity => cases h.1
  | auditPage => cases h.1

theorem validate_eq_ok_iff_spells (t : Tool) (args : Json) : t.spec.validate args = .ok () ↔
    ∃ members, args = .object members ∧ ∃ request, t.Spells (Json.lookup? members) request := by
  simp only [validate_eq_ok_iff, faultless_iff_spells]
  constructor
  · rintro ⟨members, hmembers, request, hspells⟩
    cases args with
    | object list =>
      rw [Option.some.inj hmembers]
      exact ⟨members, rfl, request, hspells⟩
    | null =>
      rw [← Option.some.inj hmembers] at hspells
      exact absurd hspells (t.not_spells_nil request)
    | _ => cases hmembers
  · rintro ⟨members, rfl, hspells⟩
    exact ⟨members, rfl, hspells⟩

/-- What passes the check is read as a record, and the record is what the members spell. -/
theorem exists_request?_of_validate (t : Tool) (args : Json) (h : t.spec.validate args = .ok ()) :
    ∃ members request, args = .object members ∧ t.Spells (Json.lookup? members) request ∧
      t.request? args = some request := by
  obtain ⟨members, rfl, request, hspells⟩ := (t.validate_eq_ok_iff_spells args).mp h
  exact ⟨members, request, rfl, hspells, (t.request?_object_eq_some_iff members request).mpr hspells⟩

/-- The robots file is left alone only if the caller says so. -/
theorem checkRobots_eq_false_iff (member? : String → Option Json) (i : Audit.Inquiry)
    (h : Spells member? auditPage i) :
    i.checkRobots = false ↔ member? "checkRobotsTxt" = some (.bool false) := by
  obtain ⟨url, checkRobotsTxt?⟩ := i
  obtain ⟨-, hcheck⟩ := h
  generalize member? "checkRobotsTxt" = v? at hcheck
  cases hcheck with
  | missing => simp [Audit.Inquiry.checkRobots]
  | null => simp [Audit.Inquiry.checkRobots]
  | value b => simp [Audit.Inquiry.checkRobots]

/-- The operation behind a tool, on a record. -/
def Registry.operate (r : Registry) : (t : Tool) → t.Request → Session (Except Error String)
  | submitUrls, (s : IndexNow.Submission) => r.indexNow.submit s
  | checkPerplexity, (k : Perplexity.Check) => r.perplexity.check k
  | auditPage, (i : Audit.Inquiry) => do
    return .ok (← r.auditor.audit i.url i.checkRobots).toMarkdown

theorem decode_of_request? (t : Tool) (args : Json) (request : t.Request)
    (h : t.request? args = some request) : decode t.request? args = .ok request := by
  rw [decode, h]

theorem perform_of_request? (r : Registry) (t : Tool) (args : Json) (request : t.Request)
    (h : t.request? args = some request) : r.perform t args = r.operate t request := by
  have hdecode := t.decode_of_request? args request h
  cases t with
  | submitUrls =>
    change decode IndexNow.Submission.ofJson? args = .ok request at hdecode
    rw [Registry.perform, hdecode]
    rfl
  | checkPerplexity =>
    change decode Perplexity.Check.ofJson? args = .ok request at hdecode
    rw [Registry.perform, hdecode]
    rfl
  | auditPage =>
    change decode Audit.Inquiry.ofJson? args = .ok request at hdecode
    rw [Registry.perform, hdecode]
    rfl

/-- The check of a tool and the reader of its record accept the same arguments, arrays apart; the
record is what the members of the object spell; and what passes the check is carried out. -/
theorem validate_eq_ok_iff_request? (t : Tool) (args : Json) (h : ∀ items, args ≠ .array items) :
    (t.spec.validate args = .ok () ↔ ∃ request, t.request? args = some request) ∧
    (∀ request, t.request? args = some request ↔
      ∃ members, args = .object members ∧ t.Spells (Json.lookup? members) request) ∧
    (t.spec.validate args = .ok () → ∃ request, t.request? args = some request ∧
      decode t.request? args = .ok request ∧
      ∀ r : Registry, r.perform t args = r.operate t request) ∧
    ∀ members i, args = .object members → Audit.Inquiry.ofJson? args = some i →
      (i.checkRobots = false ↔ Json.lookup? members "checkRobotsTxt" = some (.bool false)) := by
  have hread : ∀ request, t.request? args = some request ↔
      ∃ members, args = .object members ∧ t.Spells (Json.lookup? members) request := by
    intro request
    by_cases hobject : ∃ members, args = .object members
    · obtain ⟨members, rfl⟩ := hobject
      simp [request?_object_eq_some_iff]
    · have hnone := t.request?_eq_none args (fun members hargs => hobject ⟨members, hargs⟩) h
      simp only [hnone, reduceCtorEq, false_iff]
      rintro ⟨members, hargs, -⟩
      exact hobject ⟨members, hargs⟩
  refine ⟨?_, hread, ?_, ?_⟩
  · simp only [validate_eq_ok_iff_spells, hread]
    constructor
    · rintro ⟨members, hargs, request, hspells⟩
      exact ⟨request, members, hargs, hspells⟩
    · rintro ⟨request, members, hargs, hspells⟩
      exact ⟨members, hargs, request, hspells⟩
  · intro hvalid
    obtain ⟨members, request, -, -, hrequest⟩ := t.exists_request?_of_validate args hvalid
    exact ⟨request, hrequest, t.decode_of_request? args request hrequest,
      fun r => perform_of_request? r t args request hrequest⟩
  · rintro members i rfl hi
    exact checkRobots_eq_false_iff _ i ((inquiry_ofJson?_eq_some_iff members i).mp hi)

/-- A single address, a parameter that is null, one that is missing and a member of another name. -/
theorem validate_submission_of_one_text :
    let args : Json := .object [("urls", .string "https://example.com/"), ("host", .null),
      ("apiKey", .string "k"), ("limit", .ofNat 3)]
    let s : IndexNow.Submission := { urls := ["https://example.com/"], apiKey? := some "k" }
    (∀ items, args ≠ .array items) ∧ Spec.submitUrls.validate args = .ok () ∧
      IndexNow.Submission.ofJson? args = some s := by
  intro args s
  have hobject : ∀ items, args ≠ .array items := by simp [args]
  obtain ⟨hvalidate, hread, -⟩ := validate_eq_ok_iff_request? submitUrls args hobject
  have hrequest : request? submitUrls args = some s :=
    (hread s).mpr ⟨_, rfl, .one _, .null, .value _, .missing⟩
  exact ⟨hobject, hvalidate.mpr ⟨s, hrequest⟩, hrequest⟩

end Tool

end Crawlability
