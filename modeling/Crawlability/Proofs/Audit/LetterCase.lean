import Crawlability.Proofs.Audit.Findings
import Crawlability.Proofs.Page.LetterCase

/-!
The review of a page up to the case of ASCII letters. Two pages that differ in this case only have
the same signals, but for the text of the canonical address, and the same findings, but for the one
that quotes it.
-/
namespace Crawlability.Audit.Report

open Page (Signals)

/-- Between what comes before and behind it, a review says whether there is a canonical address. -/
theorem reviewPage_eq_append (r : Report) (page : Http.Page) :
    let signals := Signals.ofHtml page.body
    let start := ((r.reviewStatus page).reviewContentType page).reviewDirectives "Meta robots"
      signals.directives
    r.reviewPage page = (start.reviewHeaderDirectives page).reviewCanonical signals.canonical? ++
      (({} : Report).reviewJsonLd signals.jsonLdCount).reviewContent signals.content := by
  intro signals start
  rw [← append_reviewContent, ← append_reviewJsonLd, append_empty]
  rfl

/-- A page whose letters of ASCII are written in some other case has the same directives, the same
count of structured data and the same shape. It has a canonical address exactly if the page has one,
the same one up to this case, and the review differs at most in the finding that quotes it. -/
theorem reviewPage_of_recased (html recased : String)
    (h : Text.equalsIgnoringAsciiCase html recased = true) :
    let signals := Signals.ofHtml html
    let others := Signals.ofHtml recased
    others.directives = signals.directives ∧ others.jsonLdCount = signals.jsonLdCount ∧
    others.content = signals.content ∧
    (others.canonical? = none ↔ signals.canonical? = none) ∧
    (∀ address other, signals.canonical? = some address → others.canonical? = some other →
      Text.equalsIgnoringAsciiCase address other = true) ∧
    ∀ (r : Report) (status : Nat) (headers : Http.Headers),
      let review := r.reviewPage ⟨status, headers, html⟩
      let otherReview := r.reviewPage ⟨status, headers, recased⟩
      (signals.canonical? = none → otherReview = review) ∧
      ∀ address other, signals.canonical? = some address → others.canonical? = some other →
        ∃ before after : Report,
          review = before.addGood ("Canonical tag present: " ++ address) ++ after ∧
          otherReview = before.addGood ("Canonical tag present: " ++ other) ++ after := by
  intro signals others
  -- Both pages have the same ASCII lowercase, and the signals of that are known from either.
  have hlower : { others with canonical? := others.canonical?.map Text.asciiLowercase } =
      { signals with canonical? := signals.canonical?.map Text.asciiLowercase } := by
    rw [← Signals.ofHtml_asciiLowercase, ← Signals.ofHtml_asciiLowercase,
      (Text.asciiLowercase_eq_iff html recased).mpr h]
  obtain ⟨hdirectives, hcanonical, hcount, hcontent⟩ := Signals.mk.inj hlower
  have hnone : others.canonical? = none ↔ signals.canonical? = none := by
    rw [← Option.map_eq_none_iff (f := Text.asciiLowercase), hcanonical, Option.map_eq_none_iff]
  refine ⟨hdirectives, hcount, hcontent, hnone, ?_, ?_⟩
  · intro address other haddress hother
    rw [haddress, hother, Option.map_some, Option.map_some, Option.some.injEq] at hcanonical
    exact (Text.asciiLowercase_eq_iff address other).mp hcanonical.symm
  · intro r status headers review otherReview
    let page : Http.Page := ⟨status, headers, html⟩
    let start := (((r.reviewStatus page).reviewContentType page).reviewDirectives "Meta robots"
      signals.directives).reviewHeaderDirectives page
    let rest := (({} : Report).reviewJsonLd signals.jsonLdCount).reviewContent signals.content
    have hreview : review = start.reviewCanonical signals.canonical? ++ rest :=
      reviewPage_eq_append r page
    have hother : otherReview = start.reviewCanonical others.canonical? ++ rest := by
      simp only [start, rest, ← hdirectives, ← hcount, ← hcontent]
      exact reviewPage_eq_append r ⟨status, headers, recased⟩
    constructor
    · intro hmissing
      rw [hother, hreview, hmissing, hnone.mpr hmissing]
    · intro address other haddress hotherAddress
      refine ⟨start, rest, ?_, ?_⟩
      · rw [hreview, haddress]
        rfl
      · rw [hother, hotherAddress]
        rfl

/-- The sigma in front of the letter is no final one, whether the letter is small or not. -/
theorem reviewPage_of_recased_link :
    let html := "<LINK rel=\"Canonical\" href=\"/A\">ΟΔΟΣ\u2019S"
    let recased := "<link REL=\"CANONICAL\" HREF=\"/a\">ΟΔΟΣ\u2019s"
    Text.equalsIgnoringAsciiCase html recased = true ∧
    (Signals.ofHtml html).canonical? = some "/A" ∧ (Signals.ofHtml recased).canonical? = some "/a" ∧
    (Signals.ofHtml recased).content = (Signals.ofHtml html).content ∧
    ∃ before after : Report,
      ({} : Report).reviewPage ⟨200, {}, html⟩ =
        before.addGood ("Canonical tag present: " ++ "/A") ++ after ∧
      ({} : Report).reviewPage ⟨200, {}, recased⟩ =
        before.addGood ("Canonical tag present: " ++ "/a") ++ after := by
  intro html recased
  have hsame : Text.equalsIgnoringAsciiCase html recased = true := by decide +kernel
  have haddress : (Signals.ofHtml html).canonical? = some "/A" := by decide +kernel
  have hother : (Signals.ofHtml recased).canonical? = some "/a" := by decide +kernel
  obtain ⟨-, -, hcontent, -, -, hreview⟩ := reviewPage_of_recased html recased hsame
  exact ⟨hsame, haddress, hother, hcontent, (hreview {} 200 {}).2 "/A" "/a" haddress hother⟩

end Crawlability.Audit.Report
