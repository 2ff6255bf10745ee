import Crawlability.Proofs.Url.Reading

/-!
Addresses hold no controls. Whatever a text holds, a part of the address that is read from it has
each control encoded, dropped or refused, so that the printed address stays on one line.
-/
namespace Crawlability.Url

/-- No character of the text is a control. -/
def IsClear (s : String) : Prop := ∀ c ∈ s.toList, Percent.isControl c = false

@[simp] theorem isClear_append (s t : String) : IsClear (s ++ t) ↔ IsClear s ∧ IsClear t := by
  simp [IsClear, or_imp, forall_and]

theorem isClear_empty : IsClear "" := by simp [IsClear]

theorem isClear_ofList (s : List Char) :
    IsClear (.ofList s) ↔ ∀ c ∈ s, Percent.isControl c = false := by
  rw [IsClear, String.toList_ofList]

theorem isClear_join (list : List String) (h : ∀ s ∈ list, IsClear s) :
    IsClear (String.join list) := by
  intro c hc
  rw [String.toList_join, List.mem_flatMap] at hc
  obtain ⟨s, hs, hc⟩ := hc
  exact h s hs c hc

/-- A part of an address that may be missing. -/
theorem isClear_getD_map {α : Type} (part? : Option α) (text : α → String)
    (h : ∀ part, part? = some part → IsClear (text part)) :
    IsClear ((part?.map text).getD "") := by
  cases part? with
  | none => exact isClear_empty
  | some part => exact h part rfl

/-! Visible texts. -/

theorem isControl_eq_false_of_isVisibleChar (c : Char) (h : isVisibleChar c = true) :
    Percent.isControl c = false := by
  simp only [isVisibleChar, Bool.and_eq_true, decide_eq_true_eq] at h
  simp only [Percent.isControl, Bool.or_eq_false_iff, decide_eq_false_iff_not,
    beq_eq_false_iff_ne]
  omega

theorem isClear_of_isVisible (s : String) (h : IsVisible s) : IsClear s :=
  fun c hc => isControl_eq_false_of_isVisibleChar c (h c hc)

theorem isClear_toString (n : Nat) : IsClear (toString n) :=
  isClear_of_isVisible _ (isVisible_toString n)

theorem isClear_of_allRead (host? : Option Host) (h : AllRead host?) :
    ∀ host, host? = some host → IsClear host.text :=
  fun host hhost => isClear_of_isVisible _ (h host hhost).isVisible_text

/-! Encoded texts. -/

/-- An encoding that covers the controls leaves none. -/
theorem isClear_encode (set : Char → Bool) (hset : ∀ c, Percent.isControl c = true → set c = true)
    (s : List Char) : IsClear (.ofList (Percent.encode set s)) := by
  rw [isClear_ofList]
  intro c hc
  rcases mem_encode_cases set s c hc with ⟨-, -, hkept⟩ | rfl | ⟨n, hn, rfl⟩
  · cases hcontrol : Percent.isControl c with
    | false => rfl
    | true => simp [hset c hcontrol] at hkept
  · decide
  · exact isControl_eq_false_of_isVisibleChar _ (isVisibleChar_hexDigit n hn)

section Sets

variable (c : Char) (h : Percent.isControl c = true)

include h

theorem inFragment_of_isControl : Percent.inFragment c = true := by simp [Percent.inFragment, h]

theorem inPath_of_isControl : Percent.inPath c = true := by
  simp [Percent.inPath, inFragment_of_isControl c h]

theorem inUserInfo_of_isControl : Percent.inUserInfo c = true := by
  simp [Percent.inUserInfo, inPath_of_isControl c h]

theorem inQuery_of_isControl : Percent.inQuery c = true := by simp [Percent.inQuery, h]

theorem inSpecialQuery_of_isControl : Percent.inSpecialQuery c = true := by
  simp [Percent.inSpecialQuery, inQuery_of_isControl c h]

end Sets

/-! Parts of addresses. -/

theorem isControl_toLower_of_isSchemeChar (c : Char) (h : isSchemeChar c = true) :
    Percent.isControl c.toLower = false := by
  have hascii : c.toNat < 0x80 := by
    simp only [isSchemeChar, Bool.or_eq_true, beq_iff_eq] at h
    rcases h with ((halnum | rfl) | rfl) | rfl
    · exact Text.toNat_lt_of_isAlphanum c halnum
    · decide
    · decide
    · decide
  exact Text.forall_of_ascii
    (fun c => isSchemeChar c = true → Percent.isControl c.toLower = false) (by decide) c hascii h

theorem isClear_of_splitScheme? (s rest : List Char) (scheme : String)
    (h : splitScheme? s = some (scheme, rest)) : IsClear scheme := by
  unfold splitScheme? at h
  split at h
  · split at h
    · cases h
      rw [isClear_ofList]
      intro c hc
      obtain ⟨d, hd, rfl⟩ := List.mem_map.mp hc
      exact isControl_toLower_of_isSchemeChar d (List.all_eq_true.mp List.all_takeWhile d hd)
    · cases h
  · cases h

theorem Authority.isClear_text (a : Authority) (husername : IsClear a.username)
    (hpassword : IsClear a.password) (hhost : ∀ host, a.host? = some host → IsClear host.text) :
    IsClear a.text := by
  have hat : IsClear "@" := by simp [IsClear, Percent.isControl]
  have hcolon : IsClear ":" := by simp [IsClear, Percent.isControl]
  have huser : IsClear a.userText := by
    unfold Authority.userText
    split
    · exact isClear_empty
    · split
      · simp only [isClear_append, husername, hat, and_self]
      · simp only [isClear_append, husername, hpassword, hat, hcolon, and_self]
  have hport : IsClear a.portText := by
    apply isClear_getD_map
    intro port _
    simp only [isClear_append, hcolon, isClear_toString, and_self]
  rw [Authority.text, isClear_append, isClear_append]
  exact ⟨⟨huser, isClear_getD_map a.host? Host.text hhost⟩, hport⟩

theorem isClear_of_parseAuthority (scheme : String) (kind : SchemeKind) (s rest : List Char)
    (a : Authority) (h : parseAuthority scheme kind s = .ok (a, rest)) : IsClear a.text := by
  have hencoded : ∀ part, IsClear (.ofList (Percent.encode Percent.inUserInfo part)) :=
    isClear_encode _ inUserInfo_of_isControl
  unfold parseAuthority at h
  dsimp only at h
  split at h
  · cases h
  · rename_i host? port? hread
    have hhost := isClear_of_allRead host? (allRead_of_parseHost kind _ host? port? hread)
    split at h
    · cases h
    · split at h
      · cases h
        exact Authority.isClear_text _ (hencoded _) (hencoded _) hhost
      · split at h
        · cases h
        · cases h
          exact Authority.isClear_text _ (hencoded _) (hencoded _) hhost

theorem mem_of_mem_dropSegment (segments : List String) (s : String)
    (h : s ∈ dropSegment segments) : s ∈ segments := by
  unfold dropSegment at h
  split at h
  · cases h
  · split at h
    · exact h
    · exact (List.dropLast_sublist segments).subset h

/-- Segments are resolved into encoded segments and empty ones. -/
theorem isClear_of_mem_resolve (segments : List (List Char)) (before : List String)
    (hbefore : ∀ s ∈ before, IsClear s) : ∀ s ∈ resolve before segments, IsClear s := by
  induction segments generalizing before with
  | nil => exact hbefore
  | cons segment rest ih =>
    have hclosed : ∀ list : List String, (∀ s ∈ list, IsClear s) →
        ∀ s ∈ (if rest.isEmpty then list ++ [""] else list), IsClear s := by
      intro list hlist s hs
      split at hs
      · rcases List.mem_append.mp hs with hs | hs
        · exact hlist s hs
        · rw [List.mem_singleton.mp hs]
          exact isClear_empty
      · exact hlist s hs
    unfold resolve
    dsimp only
    split
    · apply ih
      apply hclosed
      intro s hs
      exact hbefore s (mem_of_mem_dropSegment before s hs)
    · split
      · exact ih _ (hclosed before hbefore)
      · apply ih
        intro s hs
        rcases List.mem_append.mp hs with hs | hs
        · exact hbefore s hs
        · rw [List.mem_singleton.mp hs]
          exact isClear_encode _ inPath_of_isControl segment

theorem isClear_of_mem_segmentsOf (kind : SchemeKind) (s : List Char) :
    ∀ segment ∈ segmentsOf kind s, IsClear segment :=
  isClear_of_mem_resolve _ [] (by simp)

theorem isClear_of_mem_parsePath (kind : SchemeKind) (s : List Char) :
    ∀ segment ∈ parsePath kind s, IsClear segment := by
  intro segment hsegment
  unfold parsePath at hsegment
  split at hsegment
  · split at hsegment
    · cases hsegment
    · rw [List.mem_singleton.mp hsegment]
      exact isClear_empty
  · exact isClear_of_mem_segmentsOf kind _ segment hsegment

theorem isClear_of_mem_filePath (segments : List String) (h : ∀ s ∈ segments, IsClear s) :
    ∀ s ∈ filePath segments, IsClear s := by
  have hmem : ∀ s ∈ segments.dropWhile (·.isEmpty), IsClear s :=
    fun s hs => h s ((List.dropWhile_suffix _).subset hs)
  intro s hs
  unfold filePath at hs
  split at hs
  · rw [List.mem_singleton.mp hs]
    exact isClear_empty
  · rename_i first rest hkept
    rw [hkept] at hmem
    split at hs
    · rcases List.mem_cons.mp hs with rfl | hs
      · rw [isClear_ofList]
        intro c hc
        rcases List.mem_append.mp hc with hc | hc
        · exact hmem first (List.mem_cons_self ..) c (List.mem_of_mem_take hc)
        · rw [List.mem_singleton.mp hc]
          decide
      · exact hmem s (List.mem_cons_of_mem first hs)
    · exact hmem s hs

theorem isClear_path_segments (list : List String) (h : ∀ s ∈ list, IsClear s) :
    IsClear (Path.segments list).text := by
  apply isClear_join
  intro s hs
  obtain ⟨segment, hsegment, rfl⟩ := List.mem_map.mp hs
  rw [isClear_append]
  exact ⟨by simp [IsClear, Percent.isControl], h segment hsegment⟩

/-- Queries and fragments are encoded. -/
theorem isClear_parseTail (kind : SchemeKind) (s : List Char) :
    (∀ query, (parseTail kind s).1 = some query → IsClear query) ∧
    ∀ fragment, (parseTail kind s).2 = some fragment → IsClear fragment := by
  constructor
  · intro query hquery
    obtain ⟨text, -, rfl⟩ := Option.map_eq_some_iff.mp hquery
    split
    · exact isClear_encode _ inQuery_of_isControl text
    · exact isClear_encode _ inSpecialQuery_of_isControl text
  · intro fragment hfragment
    obtain ⟨text, -, rfl⟩ := Option.map_eq_some_iff.mp hfragment
    exact isClear_encode _ inFragment_of_isControl text

/-- All parts of an address are without controls. -/
structure HasClearParts (u : Url) : Prop where
  scheme : IsClear u.scheme
  authority : ∀ a, u.authority? = some a → IsClear a.text
  path : IsClear u.path.text
  query : ∀ query, u.query? = some query → IsClear query
  fragment : ∀ fragment, u.fragment? = some fragment → IsClear fragment

theorem HasClearParts.isClear_text {u : Url} (h : u.HasClearParts) : IsClear u.text := by
  have hmarks : ∀ mark ∈ [":", "//", "/.", "", "?", "#"], IsClear mark := by
    simp [IsClear, Percent.isControl]
  have hauthority : IsClear u.authorityText := by
    unfold authorityText
    split
    · rename_i a ha
      rw [isClear_append]
      exact ⟨hmarks "//" (by simp), h.authority a ha⟩
    · exact hmarks "/." (by simp)
    · exact isClear_empty
  have hquery : IsClear ((u.query?.map ("?" ++ ·)).getD "") := by
    apply isClear_getD_map
    intro query heq
    rw [isClear_append]
    exact ⟨hmarks "?" (by simp), h.query query heq⟩
  have hfragment : IsClear ((u.fragment?.map ("#" ++ ·)).getD "") := by
    apply isClear_getD_map
    intro fragment heq
    rw [isClear_append]
    exact ⟨hmarks "#" (by simp), h.fragment fragment heq⟩
  simp only [text, textWithoutFragment, isClear_append]
  exact ⟨⟨⟨⟨⟨h.scheme, hmarks ":" (by simp)⟩, hauthority⟩, h.path⟩, hquery⟩, hfragment⟩

theorem hasClearParts_of_parseHierarchical (scheme : String) (hscheme : IsClear scheme)
    (kind : SchemeKind) (s : List Char) (u : Url) (h : parseHierarchical scheme kind s = .ok u) :
    u.HasClearParts := by
  unfold parseHierarchical at h
  dsimp only at h
  split at h
  · cases h
  · split at h
    · cases h
    · rename_i a left hauthority
      cases h
      refine ⟨hscheme, ?_, ?_, ?_, ?_⟩
      · intro found hfound
        cases hfound
        exact isClear_of_parseAuthority scheme kind _ left a hauthority
      · exact isClear_path_segments _ (isClear_of_mem_parsePath kind _)
      · exact (isClear_parseTail kind _).1
      · exact (isClear_parseTail kind _).2

theorem hasClearParts_parseBare (scheme : String) (hscheme : IsClear scheme) (s : List Char) :
    (parseBare scheme s).HasClearParts := by
  refine ⟨hscheme, ?_, ?_, ?_, ?_⟩
  · intro a ha
    cases ha
  · unfold parseBare
    dsimp only
    split
    · exact isClear_path_segments _ (isClear_of_mem_segmentsOf _ _)
    · exact isClear_encode Percent.isControl (fun c hc => hc) _
  · exact (isClear_parseTail .other _).1
  · exact (isClear_parseTail .other _).2

theorem hasClearParts_of_parseFile (s : List Char) (u : Url) (h : parseFile s = .ok u) :
    u.HasClearParts := by
  have hread := allRead_of_parseFile s u h
  unfold parseFile at h
  dsimp only at h
  split at h
  · cases h
  · cases h
    refine ⟨by simp [IsClear, Percent.isControl], ?_, ?_, ?_, ?_⟩
    · intro a ha
      cases ha
      exact Authority.isClear_text _ isClear_empty isClear_empty (isClear_of_allRead _ hread)
    · exact isClear_path_segments _ (isClear_of_mem_filePath _ (isClear_of_mem_parsePath _ _))
    · exact (isClear_parseTail .file _).1
    · exact (isClear_parseTail .file _).2

theorem hasClearParts_of_parse (raw : String) (u : Url) (h : parse raw = .ok u) :
    u.HasClearParts := by
  unfold parse at h
  split at h
  · cases h
  · rename_i scheme rest hsplit
    have hscheme := isClear_of_splitScheme? _ rest scheme hsplit
    dsimp only at h
    split at h
    · exact hasClearParts_of_parseFile _ u h
    · exact hasClearParts_of_parseHierarchical scheme hscheme _ _ u h
    · exact hasClearParts_of_parseHierarchical scheme hscheme _ _ u h
    · cases h
      exact hasClearParts_parseBare scheme hscheme _

/-- The text of an address that was read has no control in it, whatever it was read from. -/
theorem isClear_text_of_parse (raw : String) (u : Url) (h : parse raw = .ok u) : IsClear u.text :=
  (hasClearParts_of_parse raw u h).isClear_text

end Crawlability.Url
