import Crawlability.Page.Attributes
import Crawlability.Proofs.Page.Spans

/-!
Attributes as a tag writes them: after blanks a bare name, or a name with a value in double quotes
and an equals sign between them. Of such a list the search for quoted pairs finds the names with
values, in order, and nothing else. A bare name is passed over because no equals sign follows it,
and a value because the search goes on behind its closing quote.
-/
namespace Crawlability.Page

theorem isNameChar_eq_false_of_isBlank (c : Char) (h : Text.isBlank c = true) :
    isNameChar c = false := by
  have hword := Text.isWordChar_eq_false_of_isBlank c h
  cases halnum : c.isAlphanum with
  | true =>
    rw [Text.isWordChar_of_isAlphanum c halnum] at hword
    cases hword
  | false =>
    have hunderscore : c ≠ '_' := by
      rintro rfl
      revert h
      decide
    have hhyphen : c ≠ '-' := by
      rintro rfl
      revert h
      decide
    simp [isNameChar, halnum, hunderscore, hhyphen]

/-- Blanks, or nothing. -/
structure Gap where
  text : List Char
  isBlank : ∀ c ∈ text, Text.isBlank c = true

/-- The name of an attribute. -/
structure AttributeName where
  text : List Char
  ne_nil : text ≠ []
  isNameChar : ∀ c ∈ text, isNameChar c = true

/-- What makes an attribute out of a name: an equals sign with blanks around it, and a value in
double quotes. -/
structure Assignment where
  beforeEquals : Gap
  behindEquals : Gap
  value : List Char
  closed : '"' ∉ value

/-- An attribute with the blanks in front of it; without an assignment it is a bare name. -/
structure Attribute where
  gap : Gap
  spaced : gap.text ≠ []
  name : AttributeName
  assignment? : Option Assignment

namespace Assignment

def printed (a : Assignment) : List Char :=
  a.beforeEquals.text ++ '=' :: (a.behindEquals.text ++ '"' :: (a.value ++ ['"']))

end Assignment

namespace Attribute

def printed (a : Attribute) : List Char :=
  a.gap.text ++ (a.name.text ++ (a.assignment?.map Assignment.printed).getD [])

/-- The name in lowercase and the value, unless the name is bare. -/
def pair? (a : Attribute) : Option (String × String) :=
  a.assignment?.map fun assignment =>
    (.ofList (a.name.text.map Char.toLower), .ofList assignment.value)

end Attribute

/-- Attributes one behind the other. -/
def printAttributes (attributes : List Attribute) : List Char :=
  attributes.flatMap Attribute.printed

theorem quotedPair_cons_of_not_nameChar (c : Char) (rest : List Char)
    (h : isNameChar c = false) : quotedPair (c :: rest) = none := by
  simp [quotedPair, h]

/-- The text does not go on with a name, nor with the assignment of a name in front of it. -/
def EndsName (rest : List Char) : Prop :=
  rest.takeWhile isNameChar = [] ∧ (rest.dropWhile Text.isBlank).head? ≠ some '='

theorem dropWhile_eq_self {α : Type} (p : α → Bool) (s : List α) (h : s.takeWhile p = []) :
    s.dropWhile p = s :=
  List.dropWhile_eq_self_iff.mpr (List.takeWhile_eq_nil_iff.mp h)

theorem Gap.dropWhile_append (g : Gap) (rest : List Char)
    (h : rest.takeWhile Text.isBlank = []) :
    (g.text ++ rest).dropWhile Text.isBlank = rest := by
  rw [List.dropWhile_append_of_pos g.isBlank, dropWhile_eq_self _ _ h]

theorem Gap.takeWhile_isNameChar_append (g : Gap) (rest : List Char)
    (h : rest.takeWhile isNameChar = []) : (g.text ++ rest).takeWhile isNameChar = [] := by
  cases hg : g.text with
  | nil => exact h
  | cons c text =>
    have hc := isNameChar_eq_false_of_isBlank c (g.isBlank c (hg ▸ List.mem_cons_self ..))
    simp [hc]

theorem quotedPair_of_endsName (name rest : List Char)
    (hname : ∀ c ∈ name, isNameChar c = true) (hrest : EndsName rest) :
    quotedPair (name ++ rest) = none := by
  obtain ⟨hends, hequals⟩ := hrest
  have hdrop : (name ++ rest).dropWhile isNameChar = rest := by
    rw [List.dropWhile_append_of_pos hname, dropWhile_eq_self _ _ hends]
  unfold quotedPair
  simp only [hdrop]
  split
  · rfl
  · split
    · rename_i after hafter
      rw [hafter] at hequals
      exact absurd rfl hequals
    · rfl

/-- A name with an assignment is found, and takes its whole text. -/
theorem quotedPair_assignment (name : AttributeName) (a : Assignment) (rest : List Char) :
    quotedPair ((name.text ++ a.printed) ++ rest) =
      some ((.ofList (name.text.map Char.toLower), .ofList a.value),
        (name.text ++ a.printed).length) := by
  have htext : (name.text ++ a.printed) ++ rest = name.text ++ (a.beforeEquals.text ++
      '=' :: (a.behindEquals.text ++ '"' :: (a.value ++ '"' :: rest))) := by
    simp [Assignment.printed]
  have hends : (a.beforeEquals.text ++ '=' :: (a.behindEquals.text ++
      '"' :: (a.value ++ '"' :: rest))).takeWhile isNameChar = [] :=
    a.beforeEquals.takeWhile_isNameChar_append _ (by simp [isNameChar])
  have htake : ((name.text ++ a.printed) ++ rest).takeWhile isNameChar = name.text := by
    rw [htext, List.takeWhile_append_of_pos name.isNameChar, hends, List.append_nil]
  have hdrop : ((name.text ++ a.printed) ++ rest).dropWhile isNameChar = a.beforeEquals.text ++
      '=' :: (a.behindEquals.text ++ '"' :: (a.value ++ '"' :: rest)) := by
    rw [htext, List.dropWhile_append_of_pos name.isNameChar, dropWhile_eq_self _ _ hends]
  have hbefore := a.beforeEquals.dropWhile_append
    ('=' :: (a.behindEquals.text ++ '"' :: (a.value ++ '"' :: rest))) (by simp [Text.isBlank])
  have hbehind := a.behindEquals.dropWhile_append ('"' :: (a.value ++ '"' :: rest))
    (by simp [Text.isBlank])
  have hvalue := (upTo?_eq_some_iff '"' _ a.value rest).mpr ⟨rfl, a.closed⟩
  have hname : name.text.isEmpty = false := by simp [name.ne_nil]
  have hlength : ((name.text ++ a.printed) ++ rest).length - rest.length =
      (name.text ++ a.printed).length := by
    rw [List.length_append]
    omega
  unfold quotedPair
  simp only [htake, hdrop, hbefore, hbehind, hvalue, hname, hlength]
  rfl

theorem findAll_quotedPair_gap (g : Gap) (rest : List Char) :
    quotedPair.findAll (g.text ++ rest) = quotedPair.findAll rest := by
  apply quotedPair.findAll_append_of_none
  apply quotedPair.eq_none_of_suffix
  intro c hc after
  exact quotedPair_cons_of_not_nameChar c after (isNameChar_eq_false_of_isBlank c (g.isBlank c hc))

/-- A bare name is passed over: neither it nor an end of it has an assignment. -/
theorem findAll_quotedPair_bare (name rest : List Char)
    (hname : ∀ c ∈ name, isNameChar c = true) (hrest : EndsName rest) :
    quotedPair.findAll (name ++ rest) = quotedPair.findAll rest := by
  apply quotedPair.findAll_append_of_none
  intro b hb _
  exact quotedPair_of_endsName b rest (fun c hc => hname c (hb.subset hc)) hrest

theorem Gap.endsName (g : Gap) : EndsName g.text := by
  constructor
  · have hends := g.takeWhile_isNameChar_append [] rfl
    rwa [List.append_nil] at hends
  · have hrest := g.dropWhile_append [] rfl
    rw [List.append_nil] at hrest
    simp [hrest]

/-- Attributes end the name in front of them: they begin with blanks, and behind these stands a
name. -/
theorem Attribute.endsName_append (a : Attribute) (rest : List Char) :
    EndsName (a.printed ++ rest) := by
  obtain ⟨c, text, hgap⟩ := List.exists_cons_of_ne_nil a.spaced
  obtain ⟨d, name, hname⟩ := List.exists_cons_of_ne_nil a.name.ne_nil
  have hc : Page.isNameChar c = false :=
    isNameChar_eq_false_of_isBlank c (a.gap.isBlank c (hgap ▸ List.mem_cons_self ..))
  have hd : Page.isNameChar d = true := a.name.isNameChar d (hname ▸ List.mem_cons_self ..)
  have hdBlank : Text.isBlank d = false := by
    cases hblank : Text.isBlank d with
    | false => rfl
    | true =>
      rw [isNameChar_eq_false_of_isBlank d hblank] at hd
      cases hd
  constructor
  · simp [printed, hgap, hc]
  · have hdrop : (a.printed ++ rest).dropWhile Text.isBlank =
        d :: (name ++ ((a.assignment?.map Assignment.printed).getD [] ++ rest)) := by
      rw [printed, List.append_assoc, a.gap.dropWhile_append]
      · simp [hname]
      · simp [hname, hdBlank]
    rw [hdrop, List.head?_cons]
    intro hequals
    rw [Option.some.inj hequals] at hd
    revert hd
    decide

theorem endsName_printAttributes_append (attributes : List Attribute) (rest : List Char)
    (hrest : EndsName rest) : EndsName (printAttributes attributes ++ rest) := by
  cases attributes with
  | nil => exact hrest
  | cons a attributes =>
    rw [printAttributes, List.flatMap_cons, List.append_assoc]
    exact a.endsName_append _

theorem endsName_printAttributes (attributes : List Attribute) (trailing : Gap) :
    EndsName (printAttributes attributes ++ trailing.text) :=
  endsName_printAttributes_append attributes _ trailing.endsName

/-- One attribute gives its pair if it has one. -/
theorem Attribute.findAll_quotedPair_append (a : Attribute) (rest : List Char)
    (hrest : EndsName rest) : quotedPair.findAll (a.printed ++ rest) =
      a.pair?.toList ++ quotedPair.findAll rest := by
  rw [printed, List.append_assoc, findAll_quotedPair_gap, pair?]
  cases a.assignment? with
  | none =>
    simp only [Option.map_none, Option.getD_none, List.append_nil, Option.toList_none,
      List.nil_append]
    exact findAll_quotedPair_bare a.name.text rest a.name.isNameChar hrest
  | some assignment =>
    have hne : a.name.text ++ assignment.printed ≠ [] := by simp [a.name.ne_nil]
    exact quotedPair.findAll_append_of_some _ rest _ hne
      (quotedPair_assignment a.name assignment rest)

/-- The search finds the names with values, in order, and goes on behind the list. -/
theorem findAll_quotedPair_printAttributes_append (attributes : List Attribute) (rest : List Char)
    (hrest : EndsName rest) : quotedPair.findAll (printAttributes attributes ++ rest) =
      attributes.filterMap Attribute.pair? ++ quotedPair.findAll rest := by
  induction attributes with
  | nil => rfl
  | cons a attributes ih =>
    have hbehind := endsName_printAttributes_append attributes rest hrest
    have hprint : printAttributes (a :: attributes) ++ rest =
        a.printed ++ (printAttributes attributes ++ rest) := by
      simp [printAttributes]
    rw [hprint, a.findAll_quotedPair_append _ hbehind, ih]
    cases hpair : a.pair? with
    | none => simp [hpair]
    | some pair => simp [hpair]

theorem findAll_quotedPair_printAttributes (attributes : List Attribute) (trailing : Gap) :
    quotedPair.findAll (printAttributes attributes ++ trailing.text) =
      attributes.filterMap Attribute.pair? := by
  have htrailing : quotedPair.findAll trailing.text = [] := by
    have hgap := findAll_quotedPair_gap trailing []
    rwa [List.append_nil] at hgap
  rw [findAll_quotedPair_printAttributes_append attributes _ trailing.endsName, htrailing,
    List.append_nil]

/-- The value of the last attribute of the name that has one, the name being given in lowercase. -/
def lastValue? (attributes : List Attribute) (name : String) : Option String :=
  ((attributes.filterMap Attribute.pair?).filter (·.1 == name)).getLast?.map (·.2)

theorem Attributes.get?_eq_lastValue? (attributes : List Attribute) (name : String) :
    (Attributes.mk (attributes.filterMap Attribute.pair?)).get? name =
      lastValue? attributes name := by
  rw [Attributes.get?, lastValue?, ← List.head?_filter, List.filter_reverse, List.head?_reverse]

end Crawlability.Page
