import Crawlability.Proofs.Page.AttributeList

/-!
The quoted pairs of any text, as a relation. Read from the left, a name with a value in double
quotes is taken as a whole, and a character is passed over only where no such name begins. The
search finds exactly the pairs that the relation holds of, so that what a look-up in a tag gives can
be told from the text of the tag alone.
-/
namespace Crawlability.Page

/-- The text is a name of ASCII letters, digits, underscores and hyphens, an equals sign that may
have blanks around it, and a value between double quotes. The name is told in lowercase. -/
inductive IsPair : List Char → String × String → Prop
  | quoted (name before behind value : List Char) (hname : name ≠ [])
      (hchars : ∀ c ∈ name, c.isAlphanum = true ∨ c = '_' ∨ c = '-')
      (hbefore : ∀ c ∈ before, Text.isBlank c = true)
      (hbehind : ∀ c ∈ behind, Text.isBlank c = true) (hvalue : '"' ∉ value) :
      IsPair (name ++ (before ++ '=' :: (behind ++ '"' :: (value ++ ['"']))))
        (.ofList (name.map Char.toLower), .ofList value)

/-- The pairs of the text, from left to right. -/
inductive HasPairs : List Char → List (String × String) → Prop
  | nil : HasPairs [] []
  | found (text rest : List Char) (pair : String × String) (pairs : List (String × String))
      (h : IsPair text pair) (hrest : HasPairs rest pairs) : HasPairs (text ++ rest) (pair :: pairs)
  | passed (c : Char) (rest : List Char) (pairs : List (String × String))
      (h : ∀ text after, c :: rest = text ++ after → ∀ pair, ¬ IsPair text pair)
      (hrest : HasPairs rest pairs) : HasPairs (c :: rest) pairs

/-- The value stands with the name, and the name does not come again behind it. -/
def LastValue (pairs : List (String × String)) (name value : String) : Prop :=
  ∃ before after, pairs = before ++ (name, value) :: after ∧ ∀ pair ∈ after, pair.1 ≠ name

theorem isNameChar_iff (c : Char) :
    isNameChar c = true ↔ c.isAlphanum = true ∨ c = '_' ∨ c = '-' := by
  simp [isNameChar, or_assoc]

theorem IsPair.ne_nil (text : List Char) (pair : String × String) (h : IsPair text pair) :
    text ≠ [] := by
  cases h with
  | quoted name before behind value hname => simp [hname]

theorem quotedPair_of_isPair (text : List Char) (pair : String × String) (h : IsPair text pair)
    (rest : List Char) : quotedPair (text ++ rest) = some (pair, text.length) := by
  cases h with
  | quoted name before behind value hname hchars hbefore hbehind hvalue =>
    exact quotedPair_assignment ⟨name, hname, fun c hc => (isNameChar_iff c).mpr (hchars c hc)⟩
      ⟨⟨before, hbefore⟩, ⟨behind, hbehind⟩, value, hvalue⟩ rest

/-- The blanks in front of a text and what is left of it. -/
theorem exists_blanks_append (s : List Char) : ∃ blanks,
    s = blanks ++ s.dropWhile Text.isBlank ∧ ∀ c ∈ blanks, Text.isBlank c = true :=
  ⟨s.takeWhile Text.isBlank, List.takeWhile_append_dropWhile.symm,
    fun _ hc => List.mem_takeWhile_imp hc⟩

/-- What is found at the head of a text is a pair there. -/
theorem exists_isPair_of_quotedPair (s : List Char) (pair : String × String) (size : Nat)
    (h : quotedPair s = some (pair, size)) :
    ∃ text rest, s = text ++ rest ∧ IsPair text pair := by
  have hsplit := List.takeWhile_append_dropWhile (p := isNameChar) (l := s)
  unfold quotedPair at h
  dsimp only at h
  split at h
  · cases h
  · rename_i hempty
    obtain ⟨before, hbehindName, hbefore⟩ := exists_blanks_append (s.dropWhile isNameChar)
    split at h
    · rename_i afterEquals hequals
      obtain ⟨behind, hbehindEquals, hbehind⟩ := exists_blanks_append afterEquals
      split at h
      · rename_i afterQuote hquote
        split at h
        · cases h
        · rename_i value rest hvalue
          obtain ⟨rfl, hclosed⟩ := (upTo?_eq_some_iff '"' _ value rest).mp hvalue
          cases h
          refine ⟨_, rest, ?_, .quoted (s.takeWhile isNameChar) before behind value
            (by simpa using hempty)
            (fun c hc => (isNameChar_iff c).mp (List.mem_takeWhile_imp hc)) hbefore hbehind hclosed⟩
          rw [hequals, hbehindEquals, hquote] at hbehindName
          rw [hbehindName] at hsplit
          simpa using hsplit.symm
      · cases h
    · cases h

theorem quotedPair_eq_none_iff (s : List Char) :
    quotedPair s = none ↔ ∀ text after, s = text ++ after → ∀ pair, ¬ IsPair text pair := by
  constructor
  · rintro h text after rfl pair hpair
    rw [quotedPair_of_isPair text pair hpair after] at h
    cases h
  · intro h
    rw [Option.eq_none_iff_forall_ne_some]
    rintro ⟨pair, size⟩ hfound
    obtain ⟨text, rest, hs, hpair⟩ := exists_isPair_of_quotedPair s pair size hfound
    exact h text rest hs pair hpair

theorem hasPairs_findAll (s : List Char) : HasPairs s (quotedPair.findAll s) := by
  -- A pair takes more than one character, so the induction is on the length of what is left.
  induction hlength : s.length using Nat.strong_induction_on generalizing s with
  | _ length ih =>
    cases s with
    | nil => exact .nil
    | cons c rest =>
      cases hhead : quotedPair (c :: rest) with
      | none =>
        rw [quotedPair.findAll_cons_of_none c rest hhead]
        refine .passed c rest _ ((quotedPair_eq_none_iff _).mp hhead) (ih rest.length ?_ rest rfl)
        rw [← hlength]
        exact Nat.lt_succ_self _
      | some found =>
        obtain ⟨text, after, hs, hpair⟩ :=
          exists_isPair_of_quotedPair (c :: rest) found.1 found.2 hhead
        have hne := hpair.ne_nil text found.1
        rw [hs, quotedPair.findAll_append_of_some text after found.1 hne
          (quotedPair_of_isPair text found.1 hpair after)]
        refine .found text after _ _ hpair (ih after.length ?_ after rfl)
        rw [← hlength, hs, List.length_append]
        have hpos := List.length_pos_iff.mpr hne
        omega

/-- The search finds the pairs of the text, and a text has one list of pairs. -/
theorem hasPairs_iff (s : List Char) (pairs : List (String × String)) :
    HasPairs s pairs ↔ quotedPair.findAll s = pairs := by
  constructor
  · intro h
    induction h with
    | nil => rfl
    | found text rest pair pairs hpair hrest ih =>
      rw [quotedPair.findAll_append_of_some text rest pair (hpair.ne_nil text pair)
        (quotedPair_of_isPair text pair hpair rest), ih]
    | passed c rest pairs hnone hrest ih =>
      rw [quotedPair.findAll_cons_of_none c rest ((quotedPair_eq_none_iff _).mpr hnone), ih]
  · rintro rfl
    exact hasPairs_findAll s

namespace Attributes

variable (a : Attributes) (name : String)

/-- A look-up finds the pair behind which there is none of the name. -/
theorem get?_eq_some_iff (value : String) :
    a.get? name = some value ↔ LastValue a.pairs name value := by
  rw [get?, Option.map_eq_some_iff]
  constructor
  · rintro ⟨⟨other, _⟩, hfind, rfl⟩
    obtain ⟨hname, after, before, hsplit, hafter⟩ := List.find?_eq_some_iff_append.mp hfind
    obtain rfl : other = name := by simpa using hname
    refine ⟨before.reverse, after.reverse, ?_, ?_⟩
    · rw [← List.reverse_reverse a.pairs, hsplit]
      simp
    · intro pair hpair
      simpa using hafter pair (List.mem_reverse.mp hpair)
  · rintro ⟨before, after, hsplit, hafter⟩
    refine ⟨(name, value), ?_, rfl⟩
    rw [List.find?_eq_some_iff_append]
    refine ⟨by simp, after.reverse, before.reverse, by simp [hsplit], ?_⟩
    intro pair hpair
    simpa using hafter pair (List.mem_reverse.mp hpair)

theorem get?_eq_none_iff : a.get? name = none ↔ ∀ pair ∈ a.pairs, pair.1 ≠ name := by
  simp [get?]

theorem get?_ofTag_eq_some_iff (tag : List Char) (pairs : List (String × String))
    (h : HasPairs tag pairs) (value : String) :
    (ofTag tag).get? name = some value ↔ LastValue pairs name value := by
  obtain rfl : quotedPair.findAll tag = pairs := (hasPairs_iff tag pairs).mp h
  exact get?_eq_some_iff _ name value

end Attributes

end Crawlability.Page
