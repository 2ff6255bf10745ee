import Crawlability.Proofs.Json.Schema
import Crawlability.Proofs.Tool.NormalForm
import Mathlib.Data.List.Nodup
import Mathlib.Data.String.Basic

/-!
The schema that callers are shown, against the check of what they send. Both come from the table of
parameters. What conforms to the schema passes the check, and an object that passes it conforms,
but for two liberties that callers have: a parameter that is not required may be null, and a single
text may stand for a list of texts. Once these are amended, the check and the schema are one.
-/
namespace Crawlability.Tool

open Json (Conforms)

/-! The members of `properties`. They stand in the order of their names. -/

theorem mem_insertMember (name : String) (value : Json) (members : List (String × Json))
    (h : members.Pairwise (·.1 < ·.1)) (member : String × Json) :
    member ∈ insertMember name value members ↔
      member = (name, value) ∨ member ∈ members ∧ member.1 ≠ name := by
  induction members with
  | nil => simp [insertMember]
  | cons head rest ih =>
    obtain ⟨hhead, hrest⟩ := List.pairwise_cons.mp h
    unfold insertMember
    split
    · rename_i hless
      have hbehind : ∀ other ∈ head :: rest, other.1 ≠ name := by
        intro other hother
        rcases List.mem_cons.mp hother with rfl | hmem
        · exact ne_of_gt hless
        · exact ne_of_gt (lt_trans hless (hhead other hmem))
      rw [List.mem_cons]
      exact or_congr_right ⟨fun hmem => ⟨hmem, hbehind member hmem⟩, And.left⟩
    · split
      · rename_i hsame
        have hbehind : ∀ other ∈ rest, other.1 ≠ name := by
          intro other hother
          rw [hsame]
          exact ne_of_gt (hhead other hother)
        rw [List.mem_cons]
        refine or_congr_right ⟨fun hmem => ⟨List.mem_cons_of_mem _ hmem, hbehind member hmem⟩, ?_⟩
        rintro ⟨hmem, hne⟩
        rcases List.mem_cons.mp hmem with rfl | hmem
        · exact absurd hsame.symm hne
        · exact hmem
      · rename_i hother
        have hne : head.1 ≠ name := Ne.symm hother
        rw [List.mem_cons, List.mem_cons, ih hrest]
        constructor
        · rintro (rfl | rfl | ⟨hmem, hmember⟩)
          · exact Or.inr ⟨Or.inl rfl, hne⟩
          · exact Or.inl rfl
          · exact Or.inr ⟨Or.inr hmem, hmember⟩
        · rintro (rfl | ⟨rfl | hmem, hmember⟩)
          · exact Or.inr (Or.inl rfl)
          · exact Or.inl rfl
          · exact Or.inr (Or.inr ⟨hmem, hmember⟩)

theorem pairwise_insertMember (name : String) (value : Json) (members : List (String × Json))
    (h : members.Pairwise (·.1 < ·.1)) : (insertMember name value members).Pairwise (·.1 < ·.1) := by
  induction members with
  | nil => exact List.pairwise_singleton _ _
  | cons head rest ih =>
    obtain ⟨hhead, hrest⟩ := List.pairwise_cons.mp h
    unfold insertMember
    split
    · rename_i hless
      refine List.pairwise_cons.mpr ⟨?_, h⟩
      intro other hother
      rcases List.mem_cons.mp hother with rfl | hmem
      · exact hless
      · exact lt_trans hless (hhead other hmem)
    · rename_i hnotLess
      split
      · rename_i hsame
        refine List.pairwise_cons.mpr ⟨?_, hrest⟩
        intro other hother
        exact hsame ▸ hhead other hother
      · rename_i hne
        refine List.pairwise_cons.mpr ⟨?_, ih hrest⟩
        intro other hother
        rcases (mem_insertMember name value rest hrest other).mp hother with rfl | ⟨hmem, -⟩
        · exact lt_of_le_of_ne (not_lt.mp hnotLess) (Ne.symm hne)
        · exact hhead other hmem

/-- The schemas of the parameters by name. -/
def properties (params : List Param) : List (String × Json) :=
  params.foldl (fun members p => insertMember p.name p.schema members) []

theorem properties_concat (params : List Param) (p : Param) :
    properties (params ++ [p]) = insertMember p.name p.schema (properties params) := by
  simp [properties]

theorem pairwise_properties (params : List Param) :
    (properties params).Pairwise (·.1 < ·.1) := by
  induction params using List.reverseRecOn with
  | nil => exact List.Pairwise.nil
  | append_singleton params p ih =>
    rw [properties_concat]
    exact pairwise_insertMember p.name p.schema _ ih

theorem mem_properties (params : List Param) (hnames : (params.map (·.name)).Nodup)
    (member : String × Json) :
    member ∈ properties params ↔ ∃ p ∈ params, member = (p.name, p.schema) := by
  induction params using List.reverseRecOn with
  | nil => simp [properties]
  | append_singleton params p ih =>
    rw [List.map_append, List.nodup_append] at hnames
    obtain ⟨hold, -, hnew⟩ := hnames
    have hne : ∀ q ∈ params, q.name ≠ p.name := by
      intro q hq
      exact hnew q.name (List.mem_map.mpr ⟨q, hq, rfl⟩) p.name (by simp)
    rw [properties_concat, mem_insertMember _ _ _ (pairwise_properties params), ih hold]
    constructor
    · rintro (rfl | ⟨⟨q, hq, rfl⟩, -⟩)
      · exact ⟨p, by simp, rfl⟩
      · exact ⟨q, by simp [hq], rfl⟩
    · rintro ⟨q, hq, rfl⟩
      rcases List.mem_append.mp hq with hq | hq
      · exact Or.inr ⟨⟨q, hq, rfl⟩, hne q hq⟩
      · rw [List.mem_singleton.mp hq]
        exact Or.inl rfl

theorem lookup?_properties (params : List Param) (hnames : (params.map (·.name)).Nodup)
    (name : String) (schema : Json) : Json.lookup? (properties params) name = some schema ↔
      ∃ p ∈ params, name = p.name ∧ schema = p.schema := by
  have hnodup : ((properties params).map (·.1)).Nodup :=
    List.Pairwise.map _ (fun _ _ => ne_of_lt) (pairwise_properties params)
  rw [Json.lookup?_eq_some_iff_mem _ hnodup, mem_properties params hnames]
  simp only [Prod.mk.injEq]

/-! What the schema asks of each parameter. -/

/-- The schema of a parameter has the values that the check accepts, save the single text. -/
theorem conforms_schema_iff (p : Param) (v : Json) : Conforms p.schema v ↔
    p.kind.accepts v = true ∧ ¬ (p.kind = .texts ∧ ∃ text, v = .string text) := by
  obtain ⟨name, kind, isRequired, description⟩ := p
  cases kind with
  | text =>
    rw [Param.schema, Json.conforms_scalar_iff _ "string" rfl (by decide) (by decide)]
    cases v <;> simp [ParamKind.accepts, Json.typeName]
  | boolean =>
    rw [Param.schema, Json.conforms_scalar_iff _ "boolean" rfl (by decide) (by decide)]
    cases v <;> simp [ParamKind.accepts, Json.typeName]
  | texts =>
    have hitem : ∀ item, Conforms (.object [("type", .string "string")]) item ↔
        ∃ text, item = .string text := by
      intro item
      rw [Json.conforms_scalar_iff _ "string" rfl (by decide) (by decide)]
      cases item <;> simp [Json.typeName]
    rw [Param.schema, Json.conforms_array_iff _ (.object [("type", .string "string")]) rfl rfl]
    cases v with
    | array items => simp [ParamKind.accepts, hitem, Option.isSome_iff_exists,
        Json.string?_eq_some_iff]
    | _ => simp [ParamKind.accepts]

/-- The liberties of callers: null for a parameter that is not required, and a single text for a
list. -/
def Param.Deviates (p : Param) (v? : Option Json) : Prop :=
  (p.isRequired = false ∧ v? = some .null) ∨
    p.kind = .texts ∧ ∃ text, v? = some (.string text)

/-- The schema is content with what the parameter is given. -/
def Param.Meets (p : Param) (v? : Option Json) : Prop :=
  (∀ v, v? = some v → Conforms p.schema v) ∧ (p.isRequired = true → v? ≠ none)

theorem Param.meets_iff (p : Param) (v? : Option Json) :
    p.Meets v? ↔ p.fault? v? = none ∧ ¬ p.Deviates v? := by
  unfold Meets Deviates
  cases v? with
  | none => simp [fault?]
  | some v =>
    simp only [Option.some.injEq, forall_eq', conforms_schema_iff]
    cases v with
    | null => cases p.kind <;> simp [fault?, ParamKind.accepts]
    | _ => simp [fault?]

theorem conforms_inputSchema_iff (s : Spec) (hnames : (s.params.map (·.name)).Nodup) (v : Json) :
    Conforms s.inputSchema v ↔
      ∃ members, v = .object members ∧ ∀ p ∈ s.params, p.Meets (Json.lookup? members p.name) := by
  have hschema : s.inputSchema = .object [("properties", .object (properties s.params)),
    ("required", .array ((s.params.filter (·.isRequired)).map (.string ·.name))),
    ("type", .string "object")] := rfl
  rw [hschema, Json.conforms_object_iff _ (properties s.params)
    ((s.params.filter (·.isRequired)).map (.string ·.name)) rfl rfl rfl]
  simp only [lookup?_properties s.params hnames, List.mem_map, List.mem_filter]
  refine exists_congr fun members => and_congr_right fun _ => ?_
  constructor
  · rintro ⟨hproperties, hrequired⟩ p hp
    exact ⟨fun v hv => hproperties p.name p.schema v ⟨p, hp, rfl, rfl⟩ hv,
      fun hisRequired => hrequired p.name ⟨p, ⟨hp, hisRequired⟩, rfl⟩⟩
  · intro hmeets
    refine ⟨?_, ?_⟩
    · rintro _ _ v ⟨p, hp, rfl, rfl⟩ hv
      exact (hmeets p hp).1 v hv
    · rintro name ⟨p, ⟨hp, hisRequired⟩, hname⟩
      rw [← Json.string.inj hname]
      exact (hmeets p hp).2 hisRequired

theorem validate_object_eq_ok_iff (s : Spec) (members : List (String × Json)) :
    s.validate (.object members) = .ok () ↔
      ∀ p ∈ s.params, p.fault? (Json.lookup? members p.name) = none := by
  simp [validate_eq_ok_iff, Spec.members?]

/-- An object conforms to the schema if it passes the check and takes no liberty. -/
theorem conforms_inputSchema_object_iff (s : Spec) (hnames : (s.params.map (·.name)).Nodup)
    (members : List (String × Json)) : Conforms s.inputSchema (.object members) ↔
      s.validate (.object members) = .ok () ∧
        ∀ p ∈ s.params, ¬ p.Deviates (Json.lookup? members p.name) := by
  rw [conforms_inputSchema_iff s hnames, validate_object_eq_ok_iff]
  simp only [Json.object.injEq, exists_eq_left', Param.meets_iff, imp_and, forall_and]

/-! Amending what the schema does not allow. -/

/-- A parameter of the name has the property. -/
def Spec.hasParam (s : Spec) (name : String) (property : Param → Bool) : Bool :=
  s.params.any fun p => p.name == name && property p

theorem hasParam_iff (s : Spec) (hnames : (s.params.map (·.name)).Nodup) (p : Param)
    (hp : p ∈ s.params) (property : Param → Bool) :
    s.hasParam p.name property = true ↔ property p = true := by
  simp only [Spec.hasParam, List.any_eq_true, Bool.and_eq_true, beq_iff_eq]
  constructor
  · rintro ⟨q, hq, hname, hproperty⟩
    rwa [← List.inj_on_of_nodup_map hnames hq hp hname]
  · intro hproperty
    exact ⟨p, hp, rfl, hproperty⟩

/-- The members without those that are null and not required, and with single texts as lists of one
where a list is asked for. -/
def Spec.amend (s : Spec) (members : List (String × Json)) : List (String × Json) :=
  Json.alter (fun name v => if s.hasParam name (·.kind == .texts) then v.wrapText else v)
    (Json.without (fun name => (Json.lookup? members name).any Json.isNull &&
      s.hasParam name (!·.isRequired)) members)

theorem Spec.agree_amend (s : Spec) (hnames : (s.params.map (·.name)).Nodup)
    (members : List (String × Json)) : s.Agree (s.amend members) members := by
  intro p hp
  refine (s.agree_alter _ _ ?_ p hp).trans (s.agree_without _ _ ?_ p hp)
  · intro q hq v
    simp only [hasParam_iff s hnames q hq, beq_iff_eq]
    split
    · rename_i hkind
      rw [hkind, ParamKind.normal?_wrapText]
    · rfl
  · intro q _ hremoved
    rw [Bool.and_eq_true, Option.any_eq_true] at hremoved
    obtain ⟨⟨v, hv, hnull⟩, -⟩ := hremoved
    rw [hv, (Json.isNull_iff v).mp hnull]
    rfl

theorem not_deviates_amend (s : Spec) (hnames : (s.params.map (·.name)).Nodup)
    (members : List (String × Json)) (p : Param) (hp : p ∈ s.params) :
    ¬ p.Deviates (Json.lookup? (s.amend members) p.name) := by
  rw [Spec.amend, Json.lookup?_alter, Json.lookup?_without]
  simp only [Bool.and_eq_true, hasParam_iff s hnames p hp, beq_iff_eq, Bool.not_eq_true']
  cases Json.lookup? members p.name with
  | none => simp [Param.Deviates]
  | some v =>
    by_cases hremoved : v.isNull = true ∧ p.isRequired = false
    · simp [Param.Deviates, hremoved]
    · simp only [Option.any_some, hremoved, if_false, Option.map_some, Param.Deviates,
        Option.some.injEq]
      rintro (⟨hoptional, hvalue⟩ | ⟨hkind, text, hvalue⟩)
      · have hnull : v.isNull = true := by
          split at hvalue
          · cases v <;> simp_all [Json.wrapText, Json.isNull]
          · rw [hvalue, Json.isNull]
        exact hremoved ⟨hnull, hoptional⟩
      · rw [if_pos hkind] at hvalue
        cases v <;> simp [Json.wrapText] at hvalue

theorem conforms_amend_iff (s : Spec) (hnames : (s.params.map (·.name)).Nodup)
    (members : List (String × Json)) : Conforms s.inputSchema (.object (s.amend members)) ↔
      s.validate (.object members) = .ok () := by
  rw [conforms_inputSchema_object_iff s hnames, (s.agree_amend hnames members).validate_eq]
  exact and_iff_left (not_deviates_amend s hnames members)

theorem validate_of_not_object (s : Spec) (v : Json) (h : ∀ members, v ≠ .object members) :
    s.validate v = .ok () ↔ v = .null ∧ ∀ p ∈ s.params, p.isRequired = false := by
  rw [validate_eq_ok_iff]
  cases v with
  | object members => exact absurd rfl (h members)
  | null => simp [Spec.members?, Json.lookup?, Param.fault?]
  | _ => simp [Spec.members?]

theorem exists_isRequired (t : Tool) : ∃ p ∈ t.spec.params, p.isRequired = true := by
  cases t <;> decide

/-- What conforms to the schema passes the check. An object passes the check exactly if it conforms
once it is amended, and if it passes, it fails to conform exactly by the liberties that it takes. Of
all other values only null can pass, where nothing is required; the tools that there are require
something. -/
theorem Spec.validate_iff_conforms (s : Spec) (hnames : (s.params.map (·.name)).Nodup) (v : Json) :
    (Conforms s.inputSchema v → s.validate v = .ok ()) ∧
    (∀ members, v = .object members →
      (s.validate v = .ok () ↔ Conforms s.inputSchema (.object (s.amend members))) ∧
      (s.validate v = .ok () → (¬ Conforms s.inputSchema v ↔
        ∃ p ∈ s.params, p.Deviates (Json.lookup? members p.name)))) ∧
    ((∀ members, v ≠ .object members) → ¬ Conforms s.inputSchema v ∧
      (s.validate v = .ok () ↔ v = .null ∧ ∀ p ∈ s.params, p.isRequired = false)) ∧
    ∀ t : Tool, s = t.spec → (s.validate v = .ok () ↔
      ∃ members, v = .object members ∧ Conforms s.inputSchema (.object (s.amend members))) := by
  refine ⟨?_, ?_, ?_, ?_⟩
  · intro h
    obtain ⟨members, rfl, -⟩ := (conforms_inputSchema_iff s hnames v).mp h
    exact ((conforms_inputSchema_object_iff s hnames members).mp h).1
  · rintro members rfl
    refine ⟨(conforms_amend_iff s hnames members).symm, ?_⟩
    intro hvalid
    simp [conforms_inputSchema_object_iff s hnames, hvalid]
  · intro hobject
    refine ⟨?_, validate_of_not_object s v hobject⟩
    intro h
    obtain ⟨members, rfl, -⟩ := (conforms_inputSchema_iff s hnames v).mp h
    exact hobject members rfl
  · rintro t rfl
    by_cases hobject : ∃ members, v = .object members
    · obtain ⟨members, rfl⟩ := hobject
      simp [conforms_amend_iff t.spec hnames]
    · obtain ⟨p, hp, hrequired⟩ := exists_isRequired t
      rw [validate_of_not_object t.spec v fun members hv => hobject ⟨members, hv⟩]
      constructor
      · rintro ⟨-, hoptional⟩
        simp [hoptional p hp] at hrequired
      · rintro ⟨members, hv, -⟩
        exact absurd ⟨members, hv⟩ hobject

/-- A single address and a host that is null. -/
theorem submission_deviates_from_schema :
    let members : List (String × Json) := [("urls", .string "https://example.com/"),
      ("host", .null)]
    (Spec.submitUrls.params.map (·.name)).Nodup ∧
      Spec.submitUrls.validate (.object members) = .ok () ∧
      ¬ Conforms Spec.submitUrls.inputSchema (.object members) ∧
      Conforms Spec.submitUrls.inputSchema
        (.object [("urls", .array [.string "https://example.com/"])]) := by
  intro members
  have hnames : (Spec.submitUrls.params.map (·.name)).Nodup := by decide
  have hvalid : Spec.submitUrls.validate (.object members) = .ok () := by decide
  obtain ⟨-, hobject, -⟩ := Spec.validate_iff_conforms Spec.submitUrls hnames (.object members)
  obtain ⟨hamend, hdeviates⟩ := hobject members rfl
  refine ⟨hnames, hvalid, ?_, hamend.mp hvalid⟩
  rw [hdeviates hvalid]
  exact ⟨_, List.mem_cons_self, Or.inr ⟨rfl, _, rfl⟩⟩

end Crawlability.Tool
