import Crawlability.Proofs.Json.Members
import Crawlability.Proofs.Tool.Arguments
import Mathlib.Data.List.Basic

/-!
What does not matter in the arguments of a call. A parameter that is null is as good as one that is
left out, and a single text is as good as a list of it. So every parameter has a normal form, and
arguments with the same normal forms in all parameters of a table are taken for the same: they have
the same fault, if any, they spell the same record, and the call runs in the same way.
-/
namespace Crawlability

namespace Json

/-- A single text as a list of one. -/
def wrapText : Json → Json
  | string text => array [string text]
  | v => v

/-- A list of one text as that text. -/
def unwrapText : Json → Json
  | array [string text] => string text
  | v => v

theorem isNull_iff (v : Json) : v.isNull = true ↔ v = .null := by
  cases v <;> simp [isNull]

end Json

namespace Tool

/-- What counts of the value of a parameter. -/
def ParamKind.normal? (kind : ParamKind) : Option Json → Option Json
  | none => none
  | some .null => none
  | some v => some (if kind = texts then v.wrapText else v)

namespace ParamKind

theorem normal?_wrapText (v : Json) : texts.normal? (some v.wrapText) = texts.normal? (some v) := by
  cases v <;> rfl

theorem normal?_unwrapText (v : Json) :
    texts.normal? (some v.unwrapText) = texts.normal? (some v) := by
  unfold Json.unwrapText
  split <;> rfl

/-- Of a parameter that takes no lists, all counts but null. -/
theorem normal?_eq_filter (kind : ParamKind) (h : kind ≠ texts) (v? : Option Json) :
    kind.normal? v? = v?.filter (!·.isNull) := by
  unfold normal?
  split <;> simp_all [Option.filter_some, Json.isNull]

/-- What a reader sees in the normal form only, it sees alike in values with one normal form. -/
theorem congr_of_normal? {α : Type} (kind : ParamKind) (read : Option Json → α)
    (hread : ∀ v?, read (kind.normal? v?) = read v?) (v? w? : Option Json)
    (h : kind.normal? v? = kind.normal? w?) : read v? = read w? := by
  rw [← hread v?, h, hread w?]

theorem accepts_wrapText (kind : ParamKind) (v : Json) :
    kind.accepts (if kind = texts then v.wrapText else v) = kind.accepts v := by
  cases kind with
  | text => rfl
  | boolean => rfl
  | texts => cases v <;> rfl

end ParamKind

theorem Param.fault?_normal? (p : Param) (v? : Option Json) :
    p.fault? (p.kind.normal? v?) = p.fault? v? := by
  unfold ParamKind.normal?
  split
  · rfl
  · rfl
  · rename_i v hv
    have hne : v ≠ .null := hv
    have hwrap : (if p.kind = .texts then v.wrapText else v) ≠ .null := by
      split
      · cases v <;> simp_all [Json.wrapText]
      · exact hne
    have hfault : ∀ w : Json, w ≠ .null → p.fault? (some w) =
        if p.kind.accepts w then none
        else some ("Argument '" ++ p.name ++ "' must be " ++ p.kind.describe) := by
      intro w hw
      cases w <;> simp_all [fault?]
    rw [hfault _ hwrap, hfault v hne, ParamKind.accepts_wrapText]

/-- The members agree in all that counts for a table. -/
def Spec.Agree (s : Spec) (members others : List (String × Json)) : Prop :=
  ∀ p ∈ s.params, p.kind.normal? (Json.lookup? members p.name) =
    p.kind.normal? (Json.lookup? others p.name)

theorem Spec.Agree.validate_eq (s : Spec) (members others : List (String × Json))
    (h : s.Agree members others) :
    s.validate (.object members) = s.validate (.object others) := by
  have hfaults : (s.params.findSome? fun p => p.fault? (Json.lookup? members p.name)) =
      s.params.findSome? fun p => p.fault? (Json.lookup? others p.name) := by
    rw [← List.head?_filterMap, ← List.head?_filterMap]
    apply congrArg List.head?
    apply List.filterMap_congr
    intro p hp
    exact p.kind.congr_of_normal? p.fault? p.fault?_normal? _ _ (h p hp)
  simp only [Spec.validate, Spec.members?, hfaults]

/-! Readers of fields see the normal form only. -/

theorem optional?_normal? {α : Type} (read? : Json → Option α) (kind : ParamKind)
    (hkind : kind ≠ .texts) (v? : Option Json) :
    Json.optional? read? (kind.normal? v?) = Json.optional? read? v? := by
  rw [kind.normal?_eq_filter hkind]
  cases v? with
  | none => rfl
  | some v => cases v <;> rfl

theorem required_string?_normal? (v? : Option Json) :
    Json.required? Json.string? (ParamKind.text.normal? v?) =
      Json.required? Json.string? v? := by
  cases v? with
  | none => rfl
  | some v => cases v <;> rfl

theorem required_textOrTexts?_normal? (v? : Option Json) :
    Json.required? Json.textOrTexts? (ParamKind.texts.normal? v?) =
      Json.required? Json.textOrTexts? v? := by
  cases v? with
  | none => rfl
  | some v => cases v <;> rfl

/-- Members that agree in what counts for the table of a tool spell the same record. -/
theorem request?_congr (t : Tool) (members others : List (String × Json))
    (h : t.spec.Agree members others) :
    t.request? (.object members) = t.request? (.object others) := by
  have htext : ∀ v? w?, ParamKind.text.normal? v? = ParamKind.text.normal? w? →
      Json.optional? Json.string? v? = Json.optional? Json.string? w? :=
    ParamKind.congr_of_normal? _ _ (optional?_normal? _ _ (by decide))
  have hboolean : ∀ v? w?, ParamKind.boolean.normal? v? = ParamKind.boolean.normal? w? →
      Json.optional? Json.bool? v? = Json.optional? Json.bool? w? :=
    ParamKind.congr_of_normal? _ _ (optional?_normal? _ _ (by decide))
  have hstring := ParamKind.congr_of_normal? _ _ required_string?_normal?
  have htexts := ParamKind.congr_of_normal? _ _ required_textOrTexts?_normal?
  cases t with
  | submitUrls =>
    simp only [Spec.Agree, spec, Spec.submitUrls, List.forall_mem_cons] at h
    obtain ⟨hurls, hhost, hkey, hlocation, -⟩ := h
    change IndexNow.Submission.ofJson? _ = IndexNow.Submission.ofJson? _
    simp only [IndexNow.Submission.ofJson?, Json.fields?, Option.bind_eq_bind, Option.bind_some,
      htexts _ _ hurls, htext _ _ hhost, htext _ _ hkey, htext _ _ hlocation]
  | checkPerplexity =>
    simp only [Spec.Agree, spec, Spec.checkPerplexity, List.forall_mem_cons] at h
    obtain ⟨hurl, hkey, hmodel, -⟩ := h
    change Perplexity.Check.ofJson? _ = Perplexity.Check.ofJson? _
    simp only [Perplexity.Check.ofJson?, Json.fields?, Option.bind_eq_bind, Option.bind_some,
      hstring _ _ hurl, htext _ _ hkey, htext _ _ hmodel]
  | auditPage =>
    simp only [Spec.Agree, spec, Spec.auditPage, List.forall_mem_cons] at h
    obtain ⟨hurl, hcheck, -⟩ := h
    change Audit.Inquiry.ofJson? _ = Audit.Inquiry.ofJson? _
    simp only [Audit.Inquiry.ofJson?, Json.fields?, Option.bind_eq_bind, Option.bind_some,
      hstring _ _ hurl, hboolean _ _ hcheck]

theorem Registry.perform_congr (r : Registry) (t : Tool) (args others : Json)
    (h : t.request? args = t.request? others) : r.perform t args = r.perform t others := by
  cases t with
  | submitUrls =>
    change IndexNow.Submission.ofJson? args = IndexNow.Submission.ofJson? others at h
    simp only [perform, decode, h]
  | checkPerplexity =>
    change Perplexity.Check.ofJson? args = Perplexity.Check.ofJson? others at h
    simp only [perform, decode, h]
  | auditPage =>
    change Audit.Inquiry.ofJson? args = Audit.Inquiry.ofJson? others at h
    simp only [perform, decode, h]

/-- A call goes the same way on arguments that agree in what counts for its tool, whether they are
refused or carried out. -/
theorem Registry.call_congr (r : Registry) (name : String) (members others : List (String × Json))
    (h : ∀ t, find? name = some t → t.spec.Agree members others) :
    r.call name (some (.object members)) = r.call name (some (.object others)) := by
  unfold Registry.call
  cases hfind : find? name with
  | none => rfl
  | some t =>
    have hagree := h t hfind
    simp only [Option.getD_some, hagree.validate_eq,
      r.perform_congr t _ _ (t.request?_congr members others hagree)]

/-! Edits of the arguments that leave the normal forms as they are. -/

theorem Spec.agree_without (s : Spec) (removed : String → Bool) (members : List (String × Json))
    (h : ∀ p ∈ s.params, removed p.name = true →
      p.kind.normal? (Json.lookup? members p.name) = none) :
    s.Agree (Json.without removed members) members := by
  intro p hp
  rw [Json.lookup?_without]
  split
  · rename_i hremoved
    rw [h p hp hremoved]
    rfl
  · rfl

theorem Spec.agree_alter (s : Spec) (change : String → Json → Json)
    (members : List (String × Json))
    (h : ∀ p ∈ s.params, ∀ v, p.kind.normal? (some (change p.name v)) = p.kind.normal? (some v)) :
    s.Agree (Json.alter change members) members := by
  intro p hp
  rw [Json.lookup?_alter]
  cases Json.lookup? members p.name with
  | none => rfl
  | some v => exact h p hp v

/-- The field is null, or no parameter of the tool has its name; for a tool that there is not, every
field is idle. -/
def isIdle (name : String) (members : List (String × Json)) (field : String) : Bool :=
  (Json.lookup? members field).any Json.isNull ||
    (find? name).all fun t => t.spec.params.all fun p => p.name != field

theorem normal?_eq_none_of_isIdle (name : String) (members : List (String × Json)) (t : Tool)
    (ht : find? name = some t) (p : Param) (hp : p ∈ t.spec.params)
    (h : isIdle name members p.name = true) :
    p.kind.normal? (Json.lookup? members p.name) = none := by
  rw [isIdle, ht, Bool.or_eq_true] at h
  rcases h with hnull | hunnamed
  · obtain ⟨v, hv, hisNull⟩ := (Option.any_eq_true _ _).mp hnull
    rw [hv, (Json.isNull_iff v).mp hisNull]
    rfl
  · have hne := List.all_eq_true.mp hunnamed p hp
    simp at hne

/-- Only lists of texts are called `urls`. -/
theorem kind_of_name_eq_urls (t : Tool) :
    ∀ p ∈ t.spec.params, p.name = "urls" → p.kind = .texts := by
  cases t <;> decide

theorem agree_alter_urls (t : Tool) (members : List (String × Json)) (change : Json → Json)
    (h : ∀ v, ParamKind.texts.normal? (some (change v)) = ParamKind.texts.normal? (some v)) :
    t.spec.Agree (Json.alter (fun field v => if field = "urls" then change v else v) members)
      members := by
  apply Spec.agree_alter
  intro p hp v
  split
  · rename_i hname
    rw [t.kind_of_name_eq_urls p hp hname, h]
  · rfl

/-- Neither fields that are null nor fields that the table does not name matter to a call, nor
whether a single address comes as a list of one: the result and all that is done for it stay the
same, also when the arguments are refused. -/
theorem Registry.run_call_edited (r : Registry) (n : Network) (earlier : List Http.Request)
    (name : String) (members : List (String × Json)) :
    let calling := fun fields => (r.call name (some (.object fields))).run n earlier
    (∀ removed : String → Bool,
      (∀ field, removed field = true → isIdle name members field = true) →
      calling (Json.without removed members) = calling members) ∧
    calling (Json.without (isIdle name members) members) = calling members ∧
    calling (Json.alter (fun field v => if field = "urls" then v.wrapText else v) members) =
      calling members ∧
    calling (Json.alter (fun field v => if field = "urls" then v.unwrapText else v) members) =
      calling members := by
  intro calling
  have hsame : ∀ fields, (∀ t, find? name = some t → t.spec.Agree fields members) →
      calling fields = calling members := by
    intro fields hagree
    simp only [calling]
    rw [r.call_congr name fields members hagree]
  have hwithout : ∀ removed : String → Bool,
      (∀ field, removed field = true → isIdle name members field = true) →
      calling (Json.without removed members) = calling members := by
    intro removed hidle
    apply hsame
    intro t ht
    apply Spec.agree_without
    intro p hp hremoved
    exact normal?_eq_none_of_isIdle name members t ht p hp (hidle p.name hremoved)
  refine ⟨hwithout, hwithout _ fun field h => h, ?_, ?_⟩
  · exact hsame _ fun t _ => t.agree_alter_urls members _ ParamKind.normal?_wrapText
  · exact hsame _ fun t _ => t.agree_alter_urls members _ ParamKind.normal?_unwrapText

end Tool

end Crawlability
