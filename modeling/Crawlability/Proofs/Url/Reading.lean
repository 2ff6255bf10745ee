import Crawlability.Proofs.Url.Hosts
import Crawlability.Url.Parser

/-!
Addresses that were read. If something can be read off the address of a text, there is one; and if
that has a host, the host was read from a piece of the text that is not empty. No way of reading a
host takes such a piece to nothing, and all of them give visible texts.
-/
namespace Crawlability.Url

/-- An address is there if something can be read off it. -/
theorem exists_of_map_toOption {α : Type} (text : String) (f : Url → α) (a : α)
    (h : (parse text).toOption.map f = some a) : ∃ url, parse text = .ok url ∧ f url = a := by
  cases hparse : parse text with
  | error e =>
    rw [hparse] at h
    cases h
  | ok url =>
    rw [hparse] at h
    exact ⟨url, rfl, Option.some.inj h⟩

theorem ofList_ne_empty (s : List Char) (h : s ≠ []) : String.ofList s ≠ "" := by
  intro hempty
  exact h (String.ofList_eq_empty_iff.mp hempty)

theorem encodeChar_ne_nil (set : Char → Bool) (c : Char) : Percent.encodeChar set c ≠ [] := by
  unfold Percent.encodeChar
  split
  · obtain ⟨b, octets, hb⟩ := List.exists_cons_of_ne_nil (String.utf8EncodeChar_ne_nil (c := c))
    rw [hb, List.flatMap_cons]
    exact List.append_ne_nil_of_left_ne_nil (List.cons_ne_nil _ _) _
  · exact List.cons_ne_nil c []

theorem encode_ne_nil (set : Char → Bool) (s : List Char) (h : s ≠ []) :
    Percent.encode set s ≠ [] := by
  obtain ⟨c, rest, rfl⟩ := List.exists_cons_of_ne_nil h
  rw [Percent.encode, List.flatMap_cons]
  exact List.append_ne_nil_of_left_ne_nil (encodeChar_ne_nil set c) _

/-- Four numbers have three points between them. -/
theorem ipv4_text_ne_empty (address : Nat) : Ipv4.text address ≠ "" := by
  simp [Ipv4.text, String.intercalate_cons_cons]

namespace Host

theorem text_ne_empty_of_bracketed (s : List Char) (host : Host) (h : bracketed s = .ok host) :
    host.text ≠ "" := by
  unfold bracketed at h
  split at h
  · split at h
    · cases h
      simp [text]
    · cases h
  · cases h

theorem text_ne_empty_of_ofDomain (s : List Char) (host : Host) (h : ofDomain s = .ok host) :
    host.text ≠ "" := by
  unfold ofDomain at h
  split at h
  · cases h
  · split at h
    · cases h
    · split at h
      · cases h
      · rename_i hfilled
        split at h
        · split at h
          · cases h
            exact ipv4_text_ne_empty _
          · cases h
        · cases h
          exact ofList_ne_empty _ (by simpa using hfilled)

/-- The schemes of the web refuse a name that comes to nothing. -/
theorem text_ne_empty_of_parse (s : List Char) (host : Host) (h : parse s = .ok host) :
    host.text ≠ "" := by
  unfold parse at h
  split at h
  · exact text_ne_empty_of_bracketed _ host h
  · exact text_ne_empty_of_ofDomain _ host h

/-- All other schemes would take nothing for a name. -/
theorem text_ne_empty_of_parseOpaque (s : List Char) (hs : s ≠ []) (host : Host)
    (h : parseOpaque s = .ok host) : host.text ≠ "" := by
  unfold parseOpaque at h
  split at h
  · exact text_ne_empty_of_bracketed _ host h
  · split at h
    · cases h
    · cases h
      exact ofList_ne_empty _ (encode_ne_nil _ s hs)

/-- The host was read from something. -/
def IsRead (host : Host) : Prop :=
  ∃ s, s ≠ [] ∧ (parse s = .ok host ∨ parseOpaque s = .ok host)

theorem IsRead.text_ne_empty {host : Host} (h : host.IsRead) : host.text ≠ "" := by
  obtain ⟨s, hs, hparse | hparse⟩ := h
  · exact text_ne_empty_of_parse s host hparse
  · exact text_ne_empty_of_parseOpaque s hs host hparse

theorem IsRead.isVisible_text {host : Host} (h : host.IsRead) : IsVisible host.text := by
  obtain ⟨s, -, hparse | hparse⟩ := h
  · exact isVisible_of_parse s host hparse
  · exact isVisible_of_parseOpaque s host hparse

end Host

/-- A host that was read, if there is one. -/
def AllRead (host? : Option Host) : Prop := ∀ host, host? = some host → host.IsRead

theorem allRead_none : AllRead none := by
  intro host h
  cases h

theorem allRead_ite_none (P : Prop) [Decidable P] (host? : Option Host) (h : AllRead host?) :
    AllRead (if P then none else host?) := by
  split
  · exact allRead_none
  · exact h

theorem allRead_of_parseHost (kind : SchemeKind) (s : List Char) (host? : Option Host)
    (port? : Option (List Char)) (h : parseHost kind s = .ok (host?, port?)) : AllRead host? := by
  unfold parseHost at h
  dsimp only at h
  split at h
  · split at h
    · cases h
    · cases h
      exact allRead_none
  · rename_i hfilled
    split at h
    · cases h
    · rename_i host hhost
      cases h
      rintro _ ⟨⟩
      refine ⟨_, by simpa using hfilled, ?_⟩
      split at hhost
      · exact Or.inr hhost
      · exact Or.inl hhost

theorem allRead_of_parseAuthority (scheme : String) (kind : SchemeKind) (s rest : List Char)
    (a : Authority) (h : parseAuthority scheme kind s = .ok (a, rest)) : AllRead a.host? := by
  unfold parseAuthority at h
  dsimp only at h
  split at h
  · cases h
  · rename_i host? port? hread
    have hhost := allRead_of_parseHost kind _ host? port? hread
    split at h
    · cases h
    · split at h
      · cases h
        exact hhost
      · split at h
        · cases h
        · cases h
          exact hhost

theorem allRead_of_parseHierarchical (scheme : String) (kind : SchemeKind) (s : List Char)
    (u : Url) (h : parseHierarchical scheme kind s = .ok u) : AllRead u.host? := by
  unfold parseHierarchical at h
  dsimp only at h
  split at h
  · cases h
  · split at h
    · cases h
    · rename_i a left hauthority
      cases h
      exact allRead_of_parseAuthority scheme kind _ left a hauthority

theorem allRead_of_parseFileHost (s rest : List Char) (host? : Option Host)
    (h : parseFileHost s = .ok (host?, rest)) : AllRead host? := by
  unfold parseFileHost at h
  dsimp only at h
  split at h
  · cases h
    exact allRead_none
  · split at h
    · cases h
      exact allRead_none
    · split at h
      · cases h
      · rename_i hfilled _ _ host hhost
        cases h
        apply allRead_ite_none
        rintro _ ⟨⟩
        exact ⟨_, by simpa using hfilled, Or.inl hhost⟩

theorem allRead_of_parseFile (s : List Char) (u : Url) (h : parseFile s = .ok u) :
    AllRead u.host? := by
  unfold parseFile at h
  dsimp only at h
  split at h
  · cases h
  · rename_i host? rest hlocated
    cases h
    apply allRead_ite_none
    split at hlocated
    · split at hlocated
      · exact allRead_of_parseFileHost _ rest host? hlocated
      · cases hlocated
        exact allRead_none
    · cases hlocated
      exact allRead_none

/-- The host of an address was read from a piece of what the address was read from. -/
theorem allRead_of_parse (raw : String) (u : Url) (h : parse raw = .ok u) : AllRead u.host? := by
  unfold parse at h
  split at h
  · cases h
  · dsimp only at h
    split at h
    · exact allRead_of_parseFile _ u h
    · exact allRead_of_parseHierarchical _ _ _ u h
    · exact allRead_of_parseHierarchical _ _ _ u h
    · cases h
      exact allRead_none

/-- A host that may be missing but is not empty. -/
def IsFilled (host? : Option Host) : Prop := ∀ host, host? = some host → host.text ≠ ""

theorem isFilled_of_parse (raw : String) (u : Url) (h : parse raw = .ok u) : IsFilled u.host? :=
  fun host hhost => (allRead_of_parse raw u h host hhost).text_ne_empty

end Crawlability.Url
