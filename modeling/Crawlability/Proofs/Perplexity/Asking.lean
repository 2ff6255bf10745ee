import Crawlability.Perplexity.Client
import Crawlability.Proofs.Session.Course

/-!
How Perplexity is asked. Without an address or a key nothing is sent; with both there is one
question, and whatever comes of it is final.
-/
namespace Crawlability

theorem Http.Response.isSuccess_iff (response : Http.Response) :
    response.isSuccess = true ↔ 200 ≤ response.status ∧ response.status ≤ 299 := by
  simp [isSuccess, isSuccessStatus]

namespace Perplexity

theorem firstPresent?_eq_none_iff (argument? fallback? : Option String) :
    firstPresent? argument? fallback? = none ↔
      ∀ text, argument? = some text ∨ fallback? = some text → Text.isAllBlank text = true := by
  simp [firstPresent?, Option.or_eq_none_iff, Option.filter_eq_none_iff, or_imp, forall_and]

/-- The argument comes first, and blanks are passed over. -/
theorem firstPresent?_eq_some_iff (argument? fallback? : Option String) (text : String) :
    firstPresent? argument? fallback? = some text ↔ Text.isAllBlank text = false ∧
      (argument? = some text ∨
        (∀ own, argument? = some own → Text.isAllBlank own = true) ∧ fallback? = some text) := by
  simp only [firstPresent?, Option.or_eq_some_iff, Option.filter_eq_none_iff,
    Option.filter_eq_some_iff, Bool.not_eq_true', Bool.not_eq_false]
  constructor
  · rintro (⟨hown, htext⟩ | ⟨hblank, hother, htext⟩)
    · exact ⟨htext, Or.inl hown⟩
    · exact ⟨htext, Or.inr ⟨hblank, hother⟩⟩
  · rintro ⟨htext, hown | ⟨hblank, hother⟩⟩
    · exact Or.inl ⟨hown, htext⟩
    · exact Or.inr ⟨hblank, hother, htext⟩

namespace Client

/-- What a question comes to when this is the outcome of its request: the body of a response is read
to its end before its status counts. -/
def verdict (c : Client) : Http.Outcome → Except Error String
  | .error failure => .error (.network c.config.endpoint failure)
  | .ok response =>
    match response.body with
    | .error failure => .error (.network c.config.endpoint failure)
    | .ok octets =>
      if 200 ≤ response.status ∧ response.status ≤ 299 then
        ChatResponse.answer response.decoder octets
      else .error (.http response.status (Text.excerpt 500 (Text.Utf8.decodeLossy octets)))

variable (c : Client)

theorem verdict_of_broken (response : Http.Response) (failure : Http.Failure)
    (h : response.body = .error failure) :
    c.verdict (.ok response) = .error (.network c.config.endpoint failure) := by
  simp only [verdict, h]

theorem verdict_of_success (response : Http.Response) (octets : List UInt8)
    (h : response.body = .ok octets)
    (hsuccess : 200 ≤ response.status ∧ response.status ≤ 299) :
    c.verdict (.ok response) = ChatResponse.answer response.decoder octets := by
  simp only [verdict, h, if_pos hsuccess]

theorem verdict_of_refusal (response : Http.Response) (octets : List UInt8)
    (h : response.body = .ok octets)
    (hrefusal : ¬ (200 ≤ response.status ∧ response.status ≤ 299)) :
    c.verdict (.ok response) =
      .error (.http response.status (Text.excerpt 500 (Text.Utf8.decodeLossy octets))) := by
  simp only [verdict, h, if_neg hrefusal]

variable (n : Network) (earlier : List Http.Request)

/-- A question is one request, and the outcome of that request alone is its result. -/
theorem course_ask (url : Url) (key model : String) :
    (c.ask url key model).course n earlier =
      (c.verdict (n.answer earlier (c.request url key model)),
        [.sent (c.request url key model)]) := by
  rw [ask, Session.course_ask_bind]
  cases n.answer earlier (c.request url key model) with
  | error failure => simp only [Http.course_returnFailure, verdict]
  | ok response =>
    obtain ⟨status, fields, body, decoder⟩ := response
    cases body with
    | error failure => simp only [Http.course_returnFailure, verdict]
    | ok octets =>
      by_cases h : 200 ≤ status ∧ status ≤ 299
      · rw [verdict_of_success c ⟨status, fields, .ok octets, decoder⟩ octets rfl h]
        dsimp only
        rw [if_pos ((Http.Response.isSuccess_iff _).mpr h)]
        cases ChatResponse.answer decoder octets <;> rfl
      · rw [verdict_of_refusal c ⟨status, fields, .ok octets, decoder⟩ octets rfl h]
        dsimp only
        rw [if_neg (mt (Http.Response.isSuccess_iff _).mp h)]
        rfl

theorem requests_course_ask (url : Url) (key model : String) :
    Session.requests ((c.ask url key model).course n earlier).2 = [c.request url key model] := by
  rw [course_ask]
  rfl

theorem check_of_error (k : Check) (e : Url.ParseError)
    (hurl : Url.parse (Text.trim k.url) = .error e) :
    c.check k = return .error (.invalidInput ("Invalid URL " ++ k.url ++ ": " ++ e.message)) := by
  rw [check, hurl]

theorem check_of_no_key (k : Check) (url : Url) (hurl : Url.parse (Text.trim k.url) = .ok url)
    (hkey : firstPresent? k.apiKey? c.config.apiKey? = none) :
    c.check k = return .error (.missingCredential "Perplexity") := by
  rw [check, hurl]
  simp only [hkey]

theorem check_of_key (k : Check) (url : Url) (hurl : Url.parse (Text.trim k.url) = .ok url)
    (key : String) (hkey : firstPresent? k.apiKey? c.config.apiKey? = some key) :
    c.check k = c.ask url key ((firstPresent? k.model? c.config.model?).getD defaultModel) := by
  rw [check, hurl]
  simp only [hkey]

/-- The question of a check, if it has an address and a key. -/
def question? (c : Client) (k : Check) : Option Http.Request :=
  match Url.parse (Text.trim k.url) with
  | .error _ => none
  | .ok url => (firstPresent? k.apiKey? c.config.apiKey?).map fun key =>
      c.request url key ((firstPresent? k.model? c.config.model?).getD defaultModel)

theorem course_check_of_question (k : Check) (request : Http.Request)
    (h : c.question? k = some request) :
    (c.check k).course n earlier = (c.verdict (n.answer earlier request), [.sent request]) := by
  cases hurl : Url.parse (Text.trim k.url) with
  | error e => simp [question?, hurl] at h
  | ok url =>
    simp only [question?, hurl, Option.map_eq_some_iff] at h
    obtain ⟨key, hkey, rfl⟩ := h
    rw [c.check_of_key k url hurl key hkey, course_ask]

/-- A check sends its question and nothing else. -/
theorem requests_course_check (k : Check) :
    Session.requests ((c.check k).course n earlier).2 = (c.question? k).toList := by
  cases hquestion : c.question? k with
  | some request =>
    rw [c.course_check_of_question n earlier k request hquestion]
    rfl
  | none =>
    cases hurl : Url.parse (Text.trim k.url) with
    | error e =>
      rw [c.check_of_error k e hurl]
      rfl
    | ok url =>
      have hkey : firstPresent? k.apiKey? c.config.apiKey? = none := by
        simpa [question?, hurl] using hquestion
      rw [c.check_of_no_key k url hurl hkey]
      rfl

/-- Once the question is sent, its outcome is all that counts. -/
theorem run_check_of_sent (k : Check) (request : Http.Request)
    (h : request ∈ Session.requests ((c.check k).run n earlier).2) :
    ((c.check k).run n earlier).1 = c.verdict (n.answer earlier request) := by
  rw [← Session.requests_snd_course, requests_course_check, Option.mem_toList] at h
  rw [← Session.fst_course, c.course_check_of_question n earlier k request h]

end Client

end Perplexity

end Crawlability
