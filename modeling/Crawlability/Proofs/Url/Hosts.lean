import Crawlability.Proofs.Text.Ascii
import Crawlability.Proofs.Text.Trimming
import Crawlability.Url.Host

/-!
The characters of hosts. Whatever a host is read from, its text is visible: it is of ASCII and holds
neither controls nor blanks. A domain name is brought into ASCII and then checked for the rest; the
other names are encoded, and numeric addresses are written in digits.
-/
namespace Crawlability.Url

/-- The character is of ASCII and is neither a control nor the space. -/
def isVisibleChar (c : Char) : Bool := 0x20 < c.toNat && c.toNat < 0x7F

def IsVisible (s : String) : Prop := ∀ c ∈ s.toList, isVisibleChar c = true

theorem isVisible_append (s t : String) : IsVisible (s ++ t) ↔ IsVisible s ∧ IsVisible t := by
  simp [IsVisible, or_imp, forall_and]

theorem isVisible_ofList (s : List Char) :
    IsVisible (.ofList s) ↔ ∀ c ∈ s, isVisibleChar c = true := by
  rw [IsVisible, String.toList_ofList]

theorem isBlank_eq_false_of_isVisibleChar (c : Char) (h : isVisibleChar c = true) :
    Text.isBlank c = false := by
  simp only [isVisibleChar, Bool.and_eq_true, decide_eq_true_eq] at h
  simp only [Text.isBlank, Bool.or_eq_false_iff, Bool.and_eq_false_iff, decide_eq_false_iff_not,
    beq_eq_false_iff_ne]
  omega

/-- There is nothing to trim from a visible text. -/
theorem trim_of_isVisible (s : String) (h : IsVisible s) : Text.trim s = s := by
  rw [Text.trim_eq_self_iff, Text.trimChars_eq_self_iff]
  constructor
  · intro c hc
    exact isBlank_eq_false_of_isVisibleChar c (h c (List.mem_of_mem_head? hc))
  · intro c hc
    exact isBlank_eq_false_of_isVisibleChar c (h c (List.mem_of_mem_getLast? hc))

theorem mem_of_mem_intercalate {α : Type} (separator : List α) (parts : List (List α)) (x : α)
    (h : x ∈ separator.intercalate parts) : x ∈ separator ∨ ∃ part ∈ parts, x ∈ part := by
  induction parts with
  | nil => cases h
  | cons part parts ih =>
    cases parts with
    | nil =>
      rw [List.intercalate_singleton] at h
      exact Or.inr ⟨part, List.mem_cons_self .., h⟩
    | cons next parts =>
      rw [List.intercalate_cons_cons, List.append_assoc, List.mem_append, List.mem_append] at h
      rcases h with hpart | hseparator | hrest
      · exact Or.inr ⟨part, List.mem_cons_self .., hpart⟩
      · exact Or.inl hseparator
      · refine (ih hrest).imp_right ?_
        rintro ⟨found, hfound, hx⟩
        exact ⟨found, List.mem_cons_of_mem part hfound, hx⟩

theorem isVisible_intercalate (separator : String) (hseparator : IsVisible separator)
    (list : List String) (h : ∀ s ∈ list, IsVisible s) :
    IsVisible (separator.intercalate list) := by
  intro c hc
  rw [String.toList_intercalate] at hc
  rcases mem_of_mem_intercalate _ _ c hc with hc | ⟨part, hpart, hc⟩
  · exact hseparator c hc
  · obtain ⟨s, hs, rfl⟩ := List.mem_map.mp hpart
    exact h s hs c hc

/-! Numbers. -/

theorem isVisibleChar_digitChar (n : Nat) : isVisibleChar n.digitChar = true := by
  rcases Nat.lt_or_ge n 16 with hn | hn
  · revert n
    decide
  · rw [Nat.digitChar_eq_star.mpr hn]
    decide

theorem isVisible_toDigits (base n : Nat) (hbase : 1 < base) :
    IsVisible (.ofList (Nat.toDigits base n)) := by
  induction n using Nat.strongRecOn with
  | ind n ih =>
    rw [isVisible_ofList, Nat.toDigits_eq_if hbase]
    intro c hc
    split at hc
    · rw [List.mem_singleton.mp hc]
      exact isVisibleChar_digitChar n
    · have hsmaller : n / base < n := Nat.div_lt_self (by omega) hbase
      rcases List.mem_append.mp hc with hc | hc
      · exact (isVisible_ofList _).mp (ih _ hsmaller) c hc
      · rw [List.mem_singleton.mp hc]
        exact isVisibleChar_digitChar _

theorem isVisible_toString (n : Nat) : IsVisible (toString n) := by
  rw [Nat.toString_eq_ofList_toDigits]
  exact isVisible_toDigits 10 n (by decide)

theorem isVisible_ipv4_text (address : Nat) : IsVisible (Ipv4.text address) := by
  apply isVisible_intercalate "." (by simp [IsVisible, isVisibleChar])
  intro s hs
  obtain ⟨i, -, rfl⟩ := List.mem_map.mp hs
  exact isVisible_toString _

theorem isVisible_joinPieces (pieces : List Nat) : IsVisible (Ipv6.joinPieces pieces) := by
  apply isVisible_intercalate ":" (by simp [IsVisible, isVisibleChar])
  intro s hs
  obtain ⟨piece, -, rfl⟩ := List.mem_map.mp hs
  exact isVisible_toDigits 16 piece (by decide)

theorem isVisible_ipv6_text (pieces : List Nat) : IsVisible (Ipv6.text pieces) := by
  have hcolons : IsVisible "::" := by simp [IsVisible, isVisibleChar]
  unfold Ipv6.text
  dsimp only
  split
  · exact isVisible_joinPieces pieces
  · simp only [isVisible_append, hcolons, isVisible_joinPieces, and_self]

/-! Encoded texts. -/

/-- A character of an encoded text stands for itself, or is part of what stands for another. -/
theorem mem_encode_cases (set : Char → Bool) (s : List Char) (c : Char)
    (h : c ∈ Percent.encode set s) :
    (c ∈ s ∧ c.toNat < 0x80 ∧ set c = false) ∨ c = '%' ∨ ∃ n < 16, c = Percent.hexDigit n := by
  obtain ⟨d, hd, hc⟩ := List.mem_flatMap.mp h
  unfold Percent.encodeChar at hc
  split at hc
  · obtain ⟨b, -, hc⟩ := List.mem_flatMap.mp hc
    have hb := b.toNat_lt
    simp only [Percent.encodeOctet, List.mem_cons, List.not_mem_nil, or_false] at hc
    rcases hc with rfl | rfl | rfl
    · exact Or.inr (Or.inl rfl)
    · exact Or.inr (Or.inr ⟨_, by omega, rfl⟩)
    · exact Or.inr (Or.inr ⟨_, by omega, rfl⟩)
  · rename_i hkept
    rw [List.mem_singleton] at hc
    subst hc
    simp only [Bool.or_eq_true, decide_eq_true_eq, not_or, Nat.not_le, Bool.not_eq_true] at hkept
    exact Or.inl ⟨hd, hkept⟩

theorem isVisibleChar_hexDigit (n : Nat) (h : n < 16) :
    isVisibleChar (Percent.hexDigit n) = true := by
  revert n
  decide

/-! Domain names. -/

namespace Punycode

theorem toNat_digit_lt (value : Nat) (h : value < 36) : (digit value).toNat < 0x80 := by
  revert value
  decide

theorem toNat_lt_of_mem_number (bias column n : Nat) :
    ∀ c ∈ number bias column n, c.toNat < 0x80 := by
  induction column, n using number.induct bias with
  | case1 column n t hn =>
    rw [number, if_pos hn]
    have ht : t ≤ 26 := threshold_le column bias
    intro c hc
    rw [List.mem_singleton.mp hc]
    exact toNat_digit_lt n (by omega)
  | case2 column n t hn ih =>
    rw [number, if_neg hn]
    have ht := threshold_le column bias
    have hdigit : (n - threshold column bias) % (36 - threshold column bias) <
        36 - threshold column bias := Nat.mod_lt _ (by omega)
    intro c hc
    rcases List.mem_cons.mp hc with rfl | hc
    · exact toNat_digit_lt _ (by omega)
    · exact ih c hc

namespace Encoder

/-- All digits that have been written are of ASCII. -/
def IsAscii (e : Encoder) : Prop := ∀ c ∈ e.digits, c.toNat < 0x80

theorem IsAscii.pass {e : Encoder} (h : e.IsAscii) (basic code : Nat) (c : Char) :
    (e.pass basic code c).IsAscii := by
  unfold Encoder.pass
  split
  · exact h
  · split
    · intro d hd
      rcases List.mem_append.mp hd with hd | hd
      · exact h d hd
      · exact toNat_lt_of_mem_number e.bias 36 e.delta d hd
    · exact h

theorem IsAscii.foldl_pass {e : Encoder} (h : e.IsAscii) (basic code : Nat) (label : List Char) :
    (label.foldl (Encoder.pass basic code) e).IsAscii := by
  induction label generalizing e with
  | nil => exact h
  | cons c label ih => exact ih (h.pass basic code c)

theorem IsAscii.run {e : Encoder} (h : e.IsAscii) (label : List Char) (basic next : Nat)
    (codes : List Nat) : (Encoder.run label basic e next codes).IsAscii := by
  induction codes generalizing e next with
  | nil => exact h
  | cons code codes ih =>
    have hstart : IsAscii { e with delta := e.delta + (code - next) * (e.covered + 1) } := h
    have hpassed := hstart.foldl_pass basic code label
    rw [Encoder.run]
    apply ih
    exact hpassed

end Encoder

theorem toNat_lt_of_mem_encode (label : List Char) : ∀ c ∈ encode label, c.toNat < 0x80 := by
  have hstart : Encoder.IsAscii { covered := (label.filter (·.toNat < 0x80)).length } :=
    List.forall_mem_nil _
  intro c hc
  rcases List.mem_append.mp hc with hc | hc
  · split at hc
    · cases hc
    · rcases List.mem_append.mp hc with hc | hc
      · simpa using (List.mem_filter.mp hc).2
      · rw [List.mem_singleton.mp hc]
        decide
  · exact hstart.run label _ _ _ c hc

end Punycode

namespace Idna

theorem toNat_lt_of_mem_asciiLabel (label : List Char) :
    ∀ c ∈ asciiLabel label, c.toNat < 0x80 := by
  unfold asciiLabel
  split
  · rename_i hascii
    intro c hc
    simpa [isAscii] using List.all_eq_true.mp hascii c hc
  · intro c hc
    rcases List.mem_append.mp hc with hc | hc
    · have hprefix : ∀ d ∈ acePrefix, d.toNat < 0x80 := by simp [acePrefix]
      exact hprefix c hc
    · exact Punycode.toNat_lt_of_mem_encode label c hc

/-- The labels of a name are of ASCII in the end, and so are the points between them. -/
theorem toNat_lt_of_mem_toAscii? (name domain : List Char) (h : toAscii? name = some domain) :
    ∀ c ∈ domain, c.toNat < 0x80 := by
  unfold toAscii? at h
  dsimp only at h
  split at h
  · rename_i hascii
    cases h
    rw [Bool.and_eq_true] at hascii
    intro c hc
    obtain ⟨d, hd, rfl⟩ := List.mem_map.mp hc
    have hd : d.toNat < 0x80 := by simpa [isAscii] using List.all_eq_true.mp hascii.1 d hd
    exact Text.forall_of_ascii (fun d => d.toLower.toNat < 0x80) (by decide) d hd
  · split at h
    · cases h
    · split at h
      · cases h
      · split at h
        · cases h
        · cases h
          intro c hc
          rcases mem_of_mem_intercalate _ _ c hc with hc | ⟨part, hpart, hc⟩
          · rw [List.mem_singleton.mp hc]
            decide
          · obtain ⟨label, -, rfl⟩ := List.mem_map.mp hpart
            exact toNat_lt_of_mem_asciiLabel label c hc

end Idna

namespace Host

theorem isVisible_of_bracketed (s : List Char) (host : Host) (h : bracketed s = .ok host) :
    IsVisible host.text := by
  unfold bracketed at h
  split at h
  · split at h
    · cases h
      have hopen : IsVisible "[" := by simp [IsVisible, isVisibleChar]
      have hclose : IsVisible "]" := by simp [IsVisible, isVisibleChar]
      simp only [text, isVisible_append, hopen, hclose, isVisible_ipv6_text, and_self]
    · cases h
  · cases h

theorem isVisibleChar_of_allowed (c : Char) (hascii : c.toNat < 0x80)
    (hdelimiter : isDelimiter c = false) (hcontrol : Percent.isControl c = false) :
    isVisibleChar c = true :=
  Text.forall_of_ascii (fun c => isDelimiter c = false → Percent.isControl c = false →
    isVisibleChar c = true) (by decide +kernel) c hascii hdelimiter hcontrol

theorem isVisible_of_ofDomain (s : List Char) (host : Host) (h : ofDomain s = .ok host) :
    IsVisible host.text := by
  unfold ofDomain at h
  split at h
  · cases h
  · rename_i domain hdomain
    split at h
    · cases h
    · rename_i hforbidden
      split at h
      · cases h
      · split at h
        · split at h
          · cases h
            exact isVisible_ipv4_text _
          · cases h
        · cases h
          rw [text, isVisible_ofList]
          intro c hc
          simp only [List.any_eq_true, not_exists, not_and, Bool.not_eq_true] at hforbidden
          have hallowed := hforbidden c hc
          simp only [isForbiddenInDomain, Bool.or_eq_false_iff] at hallowed
          exact isVisibleChar_of_allowed c (Idna.toNat_lt_of_mem_toAscii? _ _ hdomain c hc)
            hallowed.1.1 hallowed.1.2

theorem isVisible_of_parse (s : List Char) (host : Host) (h : parse s = .ok host) :
    IsVisible host.text := by
  unfold parse at h
  split at h
  · exact isVisible_of_bracketed _ host h
  · exact isVisible_of_ofDomain _ host h

theorem isVisible_of_parseOpaque (s : List Char) (host : Host) (h : parseOpaque s = .ok host) :
    IsVisible host.text := by
  unfold parseOpaque at h
  split at h
  · exact isVisible_of_bracketed _ host h
  · split at h
    · cases h
    · rename_i hdelimiter
      cases h
      rw [text, isVisible_ofList]
      simp only [List.any_eq_true, not_exists, not_and, Bool.not_eq_true] at hdelimiter
      intro c hc
      rcases mem_encode_cases _ s c hc with ⟨hmem, hascii, hcontrol⟩ | rfl | ⟨n, hn, rfl⟩
      · exact isVisibleChar_of_allowed c hascii (hdelimiter c hmem) hcontrol
      · decide
      · exact isVisibleChar_hexDigit n hn

end Host

end Crawlability.Url
