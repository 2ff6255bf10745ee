import Crawlability.Proofs.Perplexity.Asking

/-!
What a check makes of a refusal, a response whose status is no success. The body is read before the
status counts, so a refusal is told as one exactly when its body can be read to its end. Then the
octets of the body do not matter: whatever they spell, the first 500 characters of it are kept. A
body that breaks off takes the status with it, and the check fails like one that got no response.
-/
namespace Crawlability

theorem Text.length_excerpt_le (size : Nat) (s : String) : (excerpt size s).length ≤ size := by
  rw [excerpt, String.length_ofList]
  exact List.length_take_le size s.toList

namespace Perplexity.Client

variable (c : Client) (n : Network) (earlier : List Http.Request)

/-- A check whose question can be sent gets the first outcome of a network that plays outcomes. -/
theorem exists_sent_playing (k : Check) (o : Nat → Http.Outcome)
    (h : (c.question? k).any Http.Request.isSendable = true) :
    ∃ request ∈ Session.requests ((c.check k).run (.playing o) []).2,
      (Network.playing o).answer [] request = o 0 := by
  obtain ⟨request, hrequest, hsendable⟩ := (Option.any_eq_true _ _).mp h
  refine ⟨request, ?_, Network.answer_playing o [] request hsendable⟩
  rw [← Session.requests_snd_course, requests_course_check, hrequest]
  exact List.mem_singleton_self request

/-- A check that is refused says so, with the status and at most 500 characters, if and only if the
body can be read. -/
theorem run_check_of_refusal (k : Check) (request : Http.Request) (response : Http.Response)
    (hsent : request ∈ Session.requests ((c.check k).run n earlier).2)
    (hresponse : n.answer earlier request = .ok response)
    (hrefusal : response.status < 200 ∨ 299 < response.status) :
    let result := ((c.check k).run n earlier).1
    (∀ octets, response.body = .ok octets → result =
      .error (.http response.status (Text.excerpt 500 (Text.Utf8.decodeLossy octets)))) ∧
    (∀ failure, response.body = .error failure →
      result = .error (.network c.config.endpoint failure)) ∧
    ((∃ body, body.length ≤ 500 ∧ result = .error (.http response.status body)) ↔
      ∃ octets, response.body = .ok octets) := by
  intro result
  have hresult : result = c.verdict (.ok response) :=
    hresponse ▸ c.run_check_of_sent n earlier k request hsent
  have hread : ∀ octets, response.body = .ok octets → result =
      .error (.http response.status (Text.excerpt 500 (Text.Utf8.decodeLossy octets))) := by
    intro octets hbody
    rw [hresult, c.verdict_of_refusal response octets hbody (by omega)]
  have hbroken : ∀ failure, response.body = .error failure →
      result = .error (.network c.config.endpoint failure) := by
    intro failure hbody
    rw [hresult, c.verdict_of_broken response failure hbody]
  refine ⟨hread, hbroken, ?_, ?_⟩
  · rintro ⟨body, -, hbody⟩
    cases h : response.body with
    | error failure =>
      rw [hbroken failure h] at hbody
      cases hbody
    | ok octets => exact ⟨octets, rfl⟩
  · rintro ⟨octets, hbody⟩
    exact ⟨_, Text.length_excerpt_le .., hread octets hbody⟩

/-- A refusal that can be read, for want of the right key. -/
theorem run_check_of_unauthorized :
    let c : Client := ⟨⟨defaultUserAgent, 30⟩, {}⟩
    let k : Check := { url := "https://example.com/", apiKey? := some "k" }
    let response : Http.Response := ⟨401, [], .ok [0x6E, 0x6F, 0xFF], .utf8⟩
    let n : Network := .playing fun _ => .ok response
    (∃ request ∈ Session.requests ((c.check k).run n []).2, n.answer [] request = .ok response) ∧
      ((c.check k).run n []).1 = .error (.http 401 "no\uFFFD") := by
  intro c k response n
  obtain ⟨request, hsent, hresponse⟩ :=
    c.exists_sent_playing k (fun _ => .ok response) (by decide +kernel)
  have hexcerpt : Text.excerpt 500 (Text.Utf8.decodeLossy [0x6E, 0x6F, 0xFF]) = "no\uFFFD" := by
    decide +kernel
  obtain ⟨hread, -, -⟩ :=
    c.run_check_of_refusal n [] k request response hsent hresponse (Or.inr (by decide))
  refine ⟨⟨request, hsent, hresponse⟩, (hread _ rfl).trans ?_⟩
  rw [hexcerpt]

/-- A refusal whose body breaks off, which no result shows. -/
theorem run_check_of_broken_refusal :
    let c : Client := ⟨⟨defaultUserAgent, 30⟩, {}⟩
    let k : Check := { url := "https://example.com/", apiKey? := some "k" }
    let failure : Http.Failure := ⟨.broken, "cut off"⟩
    let response : Http.Response := ⟨503, [], .error failure, .utf8⟩
    let n : Network := .playing fun _ => .ok response
    (∃ request ∈ Session.requests ((c.check k).run n []).2, n.answer [] request = .ok response) ∧
      ((c.check k).run n []).1 =
        .error (.network "https://api.perplexity.ai/chat/completions" failure) ∧
      ∀ status body, ((c.check k).run n []).1 ≠ .error (.http status body) := by
  intro c k failure response n
  obtain ⟨request, hsent, hresponse⟩ :=
    c.exists_sent_playing k (fun _ => .ok response) (by decide +kernel)
  have hresult : ((c.check k).run n []).1 = .error (.network c.config.endpoint failure) := by
    rw [c.run_check_of_sent n [] k request hsent, hresponse]
    exact c.verdict_of_broken response failure rfl
  refine ⟨⟨request, hsent, hresponse⟩, hresult, ?_⟩
  intro status body h
  rw [hresult] at h
  cases h

end Perplexity.Client

end Crawlability
