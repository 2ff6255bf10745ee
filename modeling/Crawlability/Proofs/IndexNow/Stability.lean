import Crawlability.Proofs.IndexNow.Resolving
import Crawlability.Proofs.Text.Padding

/-!
What a payload does not depend on. Everything in a payload that was resolved is trimmed already and
stays as it is when it is submitted again, so that no configuration is asked a second time. Nor does
a payload show what trimming takes away, or texts among the addresses that are none.
-/
namespace Crawlability

/-- Trimming leaves the text as it is, and there is something of it. -/
def Text.IsSettled (s : String) : Prop := trim s = s ∧ s ≠ ""

namespace IndexNow

namespace Payload

/-- The submission that gives everything as it stands in the payload. -/
def resubmission (p : Payload) : Submission where
  urls := p.urls
  host? := some p.host
  apiKey? := some p.key
  keyLocation? := some p.keyLocation

/-- All parts of the payload are there and trimmed, and its texts are addresses. -/
structure IsSettled (p : Payload) : Prop where
  filled : p.urls ≠ []
  urls : ∀ text ∈ p.urls, Text.trim text = text ∧ (Url.parse text).toOption.isSome = true
  host : Text.IsSettled p.host
  key : Text.IsSettled p.key
  keyLocation : Text.IsSettled p.keyLocation

theorem present?_of_isSettled (text : String) (h : Text.IsSettled text) :
    present? (some text) = some text := by
  obtain ⟨htrim, hne⟩ := h
  simp [present?, htrim, hne]

/-- A settled payload needs nothing but itself. -/
theorem IsSettled.resolve_resubmission {p : Payload} (h : p.IsSettled) (c : Config.IndexNow) :
    resolve p.resubmission c = .ok p := by
  have htrim : p.urls.map Text.trim = p.urls := by
    conv => rhs; rw [← List.map_id p.urls]
    exact List.map_congr_left fun text htext => (h.urls text htext).1
  have hurls : (validUrls p.urls).map (·.1) = p.urls := by
    rw [map_fst_validUrls, htrim, List.filter_eq_self]
    exact fun text htext => (h.urls text htext).2
  cases hvalid : validUrls p.urls with
  | nil =>
    rw [hvalid] at hurls
    exact absurd hurls.symm h.filled
  | cons first rest =>
    rw [hvalid, List.map_cons] at hurls
    simp only [resolve, resubmission, hvalid, present?_of_isSettled _ h.host,
      present?_of_isSettled _ h.key, present?_of_isSettled _ h.keyLocation, Option.some_or,
      Option.getD_some, hurls]

theorem trim_derivedLocation (host key : String) :
    Text.trim ("https://" ++ host ++ "/" ++ key ++ ".txt") =
      "https://" ++ host ++ "/" ++ key ++ ".txt" := by
  rw [Text.trim_eq_self_iff, Text.trimChars_eq_self_iff]
  have hhead : ("https://" ++ host ++ "/" ++ key ++ ".txt").toList.head? = some 'h' := by simp
  have hlast : ("https://" ++ host ++ "/" ++ key ++ ".txt").toList.getLast? = some 't' := by
    rw [String.toList_append, List.getLast?_append]
    simp
  constructor
  · rw [hhead]
    rintro _ ⟨⟩
    decide
  · rw [hlast]
    rintro _ ⟨⟩
    decide

/-- Whatever the parts of a payload come from, they are settled. -/
theorem IsFor.isSettled {p : Payload} {s : Submission} {c : Config.IndexNow} (h : p.IsFor s c)
    (hfilled : p.urls ≠ []) : p.IsSettled where
  filled := hfilled
  urls := by
    intro text htext
    rw [h.urls, Submission.addresses, List.mem_filter] at htext
    obtain ⟨raw, -, rfl⟩ := List.mem_map.mp htext.1
    exact ⟨Text.trim_trim raw, htext.2⟩
  host := by
    refine ⟨?_, h.host.ne_empty⟩
    rcases h.host with ⟨own, -, -, hown⟩ | ⟨-, first, rest, url, found, -, hparse, hfound, hhost⟩
    · rw [hown, Text.trim_trim]
    · have hread := Url.allRead_of_parse first url hparse found hfound
      rw [hhost, Url.trim_of_isVisible _ hread.isVisible_text]
  key := by
    refine ⟨?_, h.key_ne_empty⟩
    obtain ⟨key, -, hkey⟩ := h.key
    rw [hkey, Text.trim_trim]
  keyLocation := by
    refine ⟨?_, h.keyLocation_ne_empty⟩
    rw [h.keyLocation]
    cases Config.firstGiven? [s.keyLocation?, c.keyLocation?] with
    | none => exact trim_derivedLocation p.host p.key
    | some location => exact Text.trim_trim location

theorem isSettled_of_resolve (s : Submission) (c : Config.IndexNow) (p : Payload)
    (h : resolve s c = .ok p) : p.IsSettled := by
  rcases resolve_cases s c with ⟨-, reason, herror⟩ | ⟨-, -, herror⟩ | ⟨-, -, q, hq, hfor, hfilled⟩
  · rw [h] at herror
    cases herror
  · rw [h] at herror
    cases herror
  · rw [h] at hq
    cases hq
    exact hfor.isSettled hfilled

end Payload

/-- The second submission is the first one with blanks around its texts, and with other texts among
its addresses that are none. What is trimmed before it is read is judged by what trimming leaves. -/
structure Submission.IsClutteredAs (s s' : Submission) : Prop where
  urls : Text.Interspersed Text.Pads (fun junk => ∃ e, Url.parse (Text.trim junk) = .error e)
    s.urls s'.urls
  host : Option.Rel Text.Pads s.host? s'.host?
  apiKey : Option.Rel Text.Pads s.apiKey? s'.apiKey?
  keyLocation : Option.Rel Text.Pads s.keyLocation? s'.keyLocation?

namespace Payload

theorem present?_of_pads (text? padded? : Option String)
    (h : Option.Rel Text.Pads text? padded?) : present? padded? = present? text? := by
  cases h with
  | none => rfl
  | some hpads =>
    rw [present?, present?, Option.map_some, Option.map_some, Text.trim_of_pads _ _ hpads]

/-- The addresses that are read are the same ones, the first of them included. -/
theorem validUrls_of_interspersed (urls urls' : List String)
    (h : Text.Interspersed Text.Pads (fun junk => ∃ e, Url.parse (Text.trim junk) = .error e)
      urls urls') : validUrls urls' = validUrls urls := by
  apply h.filterMap_eq
  · intro raw padded hpads
    rw [Text.trim_of_pads raw padded hpads]
  · rintro junk ⟨e, he⟩
    rw [he]
    rfl

theorem resolve_of_isClutteredAs (s s' : Submission) (h : s.IsClutteredAs s')
    (c : Config.IndexNow) : resolve s' c = resolve s c := by
  rw [resolve, resolve, validUrls_of_interspersed _ _ h.urls, present?_of_pads _ _ h.host,
    present?_of_pads _ _ h.apiKey, present?_of_pads _ _ h.keyLocation]

/-- A payload that was resolved is resolved from its own parts, whatever the configuration is then;
and neither blanks around what is given nor texts that are no addresses make a difference to the
payload or to the error. -/
theorem resolve_stable (s : Submission) (c : Config.IndexNow) :
    (∀ p, resolve s c = .ok p → ∀ c', resolve p.resubmission c' = .ok p) ∧
      ∀ s', s.IsClutteredAs s' → resolve s' c = resolve s c := by
  constructor
  · intro p hp c'
    exact (isSettled_of_resolve s c p hp).resolve_resubmission c'
  · intro s' hs'
    exact resolve_of_isClutteredAs s s' hs' c

theorem resolve_stable_of_one_address :
    let s : Submission := { urls := ["https://b.org/a"], apiKey? := some "k" }
    let s' : Submission :=
      { urls := ["/a", " https://b.org/a\n", "b.org"], apiKey? := some "\u2003k" }
    let p : Payload := ⟨"b.org", "k", "https://b.org/k.txt", ["https://b.org/a"]⟩
    resolve s {} = .ok p ∧ s.IsClutteredAs s' ∧ resolve s' {} = .ok p ∧
      resolve p.resubmission { key? := some "other" } = .ok p := by
  intro s s' p
  have hp : resolve s {} = .ok p := by decide +kernel
  have hjunk : ∀ junk ∈ ["/a", "b.org"], ∃ e, Url.parse (Text.trim junk) = .error e := by
    intro junk hjunk
    refine ⟨.relativeWithoutBase, ?_⟩
    revert junk
    decide +kernel
  have hcluttered : s.IsClutteredAs s' := by
    refine ⟨?_, .none, .some ?_, .none⟩
    · refine .insert _ _ _ (hjunk _ (by simp)) (.keep _ _ _ _ ?_ ?_)
      · exact ⟨[' '], ['\n'], by decide +kernel, by simp [Text.isBlank], by simp [Text.isBlank]⟩
      · exact .insert _ _ _ (hjunk _ (by simp)) .nil
    · exact ⟨['\u2003'], [], by decide +kernel, by simp [Text.isBlank], by simp⟩
  obtain ⟨hagain, hclutter⟩ := resolve_stable s {}
  exact ⟨hp, hcluttered, (hclutter s' hcluttered).trans hp, hagain p hp _⟩

end Payload

end IndexNow

end Crawlability
