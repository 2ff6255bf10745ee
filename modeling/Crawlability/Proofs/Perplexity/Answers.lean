import Crawlability.Proofs.Config.Credentials
import Crawlability.Proofs.Json.Records
import Crawlability.Proofs.Perplexity.Asking

/-!
How a check ends. It needs an address, a key, a response that arrives whole, a status of success and
a body that is a chat response with a choice, in this order; the first of these that is missing is
the error. If nothing is missing, the answer is what the first choice says. The number that a choice
gives itself, the choices behind the first and whatever else the body holds play no part.
-/
namespace Crawlability.Perplexity

/-- The tree is a record of a role and a content, and both are texts. -/
def IsMessage (t : Json.Tree) (m : Message) : Prop :=
  t.Holds ["role", "content"] [some (.string (some m.role)), some (.string (some m.content))]

/-- A choice that does not give its index has index zero. -/
def IsIndex (index? : Option Json.Tree) (n : Nat) : Prop :=
  index? = none ∧ n = 0 ∨ ∃ index, index? = some index ∧ index.word? = some n

def IsChoice (t : Json.Tree) (c : Choice) : Prop :=
  ∃ index? message, t.Holds ["index", "message"] [index?, some message] ∧
    IsIndex index? c.index ∧ IsMessage message c.message

/-- The tree is a record of choices, which are all well-formed. -/
def IsResponse (t : Json.Tree) (r : ChatResponse) : Prop :=
  ∃ items, t.Holds ["choices"] [some (.array items)] ∧ List.Forall₂ IsChoice items r.choices

theorem Message.ofTree?_eq_some_iff (t : Json.Tree) (m : Message) :
    Message.ofTree? t = some m ↔ IsMessage t m := by
  rw [IsMessage, ← Json.Tree.record?_eq_some_iff, Message.ofTree?]
  obtain ⟨role, content⟩ := m
  split
  · rename_i role' content' hrecord
    simp [hrecord, Json.Tree.text?_eq_some_iff, Option.bind_eq_some_iff]
  · rename_i hrecord
    constructor
    · intro h
      cases h
    · intro h
      exact absurd h (hrecord _ _)

theorem Choice.ofTree?_eq_some_iff (t : Json.Tree) (c : Choice) :
    Choice.ofTree? t = some c ↔ IsChoice t c := by
  simp only [IsChoice, ← Json.Tree.record?_eq_some_iff, ← Message.ofTree?_eq_some_iff]
  obtain ⟨index, message⟩ := c
  constructor
  · intro h
    rw [Choice.ofTree?] at h
    split at h
    · rename_i tree hrecord
      obtain ⟨m, hm, hc⟩ := Option.bind_eq_some_iff.mp h
      obtain ⟨rfl, rfl⟩ := Choice.mk.inj (Option.some.inj hc)
      exact ⟨none, tree, hrecord, Or.inl ⟨rfl, rfl⟩, hm⟩
    · rename_i number tree hrecord
      obtain ⟨n, hn, hrest⟩ := Option.bind_eq_some_iff.mp h
      obtain ⟨m, hm, hc⟩ := Option.bind_eq_some_iff.mp hrest
      obtain ⟨rfl, rfl⟩ := Choice.mk.inj (Option.some.inj hc)
      exact ⟨some number, tree, hrecord, Or.inr ⟨number, rfl, hn⟩, hm⟩
    · cases h
  · rintro ⟨index?, tree, hrecord, ⟨rfl, hzero⟩ | ⟨number, rfl, hn⟩, hm⟩
    · simp_all [Choice.ofTree?]
    · simp_all [Choice.ofTree?]

theorem ChatResponse.ofTree?_eq_some_iff (t : Json.Tree) (r : ChatResponse) :
    ChatResponse.ofTree? t = some r ↔ IsResponse t r := by
  simp only [IsResponse, ← Json.Tree.record?_eq_some_iff]
  obtain ⟨choices⟩ := r
  have hchoices : ∀ items, items.mapM Choice.ofTree? = some choices ↔
      List.Forall₂ IsChoice items choices := by
    intro items
    rw [Json.mapM_eq_some_iff]
    simp only [Choice.ofTree?_eq_some_iff]
  constructor
  · intro h
    rw [ChatResponse.ofTree?] at h
    split at h
    · rename_i tree hrecord
      obtain ⟨items, hitems, hrest⟩ := Option.bind_eq_some_iff.mp h
      obtain ⟨list, hlist, hr⟩ := Option.bind_eq_some_iff.mp hrest
      obtain rfl := ChatResponse.mk.inj (Option.some.inj hr)
      rw [Json.Tree.items?_eq_some_iff] at hitems
      subst hitems
      exact ⟨items, hrecord, (hchoices items).mp hlist⟩
    · cases h
  · rintro ⟨items, hrecord, hlist⟩
    simp [ChatResponse.ofTree?, hrecord, Json.Tree.items?, (hchoices items).mpr hlist]

/-- What the octets of a body spell as a chat response. -/
def Spell (octets : List UInt8) (r : ChatResponse) : Prop :=
  ∃ t, Json.Tree.ofOctets? octets = some t ∧ IsResponse t r

theorem ChatResponse.parse?_eq_some_iff (octets : List UInt8) (r : ChatResponse) :
    ChatResponse.parse? octets = some r ↔ Spell octets r := by
  simp only [ChatResponse.parse?, Option.bind_eq_some_iff, ChatResponse.ofTree?_eq_some_iff, Spell]

section Answers

variable (decoder : Http.Decoder) (octets : List UInt8)

theorem answer_of_no_response (h : ∀ r, ¬ Spell octets r) :
    ChatResponse.answer decoder octets = .error (.decoding (decoder.complaint octets)) := by
  have hnone : ChatResponse.parse? octets = none := by
    rw [Option.eq_none_iff_forall_ne_some]
    exact fun r hr => h r ((ChatResponse.parse?_eq_some_iff octets r).mp hr)
  simp only [ChatResponse.answer, hnone]

theorem answer_of_no_choices (h : Spell octets ⟨[]⟩) :
    ChatResponse.answer decoder octets = .error (.decoding "No choices returned") := by
  simp only [ChatResponse.answer, (ChatResponse.parse?_eq_some_iff octets _).mpr h]

theorem answer_of_choices (first : Choice) (others : List Choice)
    (h : Spell octets ⟨first :: others⟩) :
    ChatResponse.answer decoder octets = .ok first.message.content := by
  simp only [ChatResponse.answer, (ChatResponse.parse?_eq_some_iff octets _).mpr h]

end Answers

namespace Client

variable (c : Client) (n : Network) (earlier : List Http.Request) (k : Check)

/-- The key is that of the check or, if there is none, that of the configuration; a blank text is
no key. -/
def HasKey (key : String) : Prop :=
  Text.isAllBlank key = false ∧
    (k.apiKey? = some key ∨ Text.IsMissing k.apiKey? ∧ c.config.apiKey? = some key)

/-- The check has an address and a key, and it puts its question in this request. -/
def Asks (request : Http.Request) : Prop :=
  ∃ url key, Url.parse (Text.trim k.url) = .ok url ∧ c.HasKey k key ∧
    request = c.request url key ((firstPresent? k.model? c.config.model?).getD defaultModel)

/-- The question is answered by this response, the body of which can be read to its end. -/
def Receives (response : Http.Response) (octets : List UInt8) : Prop :=
  ∃ request, c.Asks k request ∧ n.answer earlier request = .ok response ∧
    response.body = .ok octets

/-- How a check ends: by the first thing that it lacks or, if it lacks nothing, with an answer. -/
inductive Concludes : Except Error String → Prop
  | noAddress (e : Url.ParseError) (haddress : Url.parse (Text.trim k.url) = .error e) :
      Concludes (.error (.invalidInput ("Invalid URL " ++ k.url ++ ": " ++ e.message)))
  | noKey (url : Url) (haddress : Url.parse (Text.trim k.url) = .ok url)
      (hkey : ∀ key, ¬ c.HasKey k key) :
      Concludes (.error (.missingCredential "Perplexity"))
  | noResponse (request : Http.Request) (hasks : c.Asks k request) (failure : Http.Failure)
      (houtcome : n.answer earlier request = .error failure) :
      Concludes (.error (.network c.config.endpoint failure))
  | noBody (request : Http.Request) (hasks : c.Asks k request) (response : Http.Response)
      (houtcome : n.answer earlier request = .ok response) (failure : Http.Failure)
      (hbody : response.body = .error failure) :
      Concludes (.error (.network c.config.endpoint failure))
  | refused (response : Http.Response) (octets : List UInt8)
      (hreceives : c.Receives n earlier k response octets)
      (hstatus : response.status < 200 ∨ 299 < response.status) :
      Concludes (.error
        (.http response.status (Text.excerpt 500 (Text.Utf8.decodeLossy octets))))
  | malformed (response : Http.Response) (octets : List UInt8)
      (hreceives : c.Receives n earlier k response octets)
      (hstatus : 200 ≤ response.status ∧ response.status ≤ 299)
      (hspell : ∀ r, ¬ Spell octets r) :
      Concludes (.error (.decoding (response.decoder.complaint octets)))
  | noChoices (response : Http.Response) (octets : List UInt8)
      (hreceives : c.Receives n earlier k response octets)
      (hstatus : 200 ≤ response.status ∧ response.status ≤ 299) (hspell : Spell octets ⟨[]⟩) :
      Concludes (.error (.decoding "No choices returned"))
  | answered (response : Http.Response) (octets : List UInt8)
      (hreceives : c.Receives n earlier k response octets)
      (hstatus : 200 ≤ response.status ∧ response.status ≤ 299)
      (index : Nat) (role content : String) (others : List Choice)
      (hspell : Spell octets ⟨⟨index, role, content⟩ :: others⟩) :
      Concludes (.ok content)

theorem firstPresent?_eq_some_iff_hasKey (key : String) :
    firstPresent? k.apiKey? c.config.apiKey? = some key ↔ c.HasKey k key :=
  firstPresent?_eq_some_iff k.apiKey? c.config.apiKey? key

theorem question?_eq_some_iff_asks (request : Http.Request) :
    c.question? k = some request ↔ c.Asks k request := by
  simp only [Asks, ← firstPresent?_eq_some_iff_hasKey]
  cases hurl : Url.parse (Text.trim k.url) with
  | error e => simp [question?, hurl]
  | ok url => simp [question?, hurl, @eq_comm _ request]

theorem fst_run_of_asks (request : Http.Request) (h : c.Asks k request) :
    ((c.check k).run n earlier).1 = c.verdict (n.answer earlier request) := by
  rw [← Session.fst_course,
    c.course_check_of_question n earlier k request ((c.question?_eq_some_iff_asks k _).mpr h)]

theorem fst_run_of_receives (response : Http.Response) (octets : List UInt8)
    (h : c.Receives n earlier k response octets)
    (hstatus : 200 ≤ response.status ∧ response.status ≤ 299) :
    ((c.check k).run n earlier).1 = ChatResponse.answer response.decoder octets := by
  obtain ⟨request, hasks, houtcome, hbody⟩ := h
  rw [c.fst_run_of_asks n earlier k request hasks, houtcome,
    c.verdict_of_success response octets hbody hstatus]

/-- A check ends in no other way than it should. -/
theorem fst_run_of_concludes (result : Except Error String)
    (h : c.Concludes n earlier k result) : ((c.check k).run n earlier).1 = result := by
  cases h with
  | noAddress e haddress =>
    rw [c.check_of_error k e haddress]
    rfl
  | noKey url haddress hkey =>
    have hnone : firstPresent? k.apiKey? c.config.apiKey? = none := by
      rw [Option.eq_none_iff_forall_ne_some]
      exact fun key h => hkey key ((c.firstPresent?_eq_some_iff_hasKey k key).mp h)
    rw [c.check_of_no_key k url haddress hnone]
    rfl
  | noResponse request hasks failure houtcome =>
    rw [c.fst_run_of_asks n earlier k request hasks, houtcome, verdict]
  | noBody request hasks response houtcome failure hbody =>
    rw [c.fst_run_of_asks n earlier k request hasks, houtcome,
      c.verdict_of_broken response failure hbody]
  | refused response octets hreceives hstatus =>
    obtain ⟨request, hasks, houtcome, hbody⟩ := hreceives
    rw [c.fst_run_of_asks n earlier k request hasks, houtcome,
      c.verdict_of_refusal response octets hbody (by omega)]
  | malformed response octets hreceives hstatus hspell =>
    rw [c.fst_run_of_receives n earlier k response octets hreceives hstatus,
      answer_of_no_response _ octets hspell]
  | noChoices response octets hreceives hstatus hspell =>
    rw [c.fst_run_of_receives n earlier k response octets hreceives hstatus,
      answer_of_no_choices _ octets hspell]
  | answered response octets hreceives hstatus index role content others hspell =>
    rw [c.fst_run_of_receives n earlier k response octets hreceives hstatus,
      answer_of_choices _ octets _ others hspell]

theorem exists_concludes_of_receives (response : Http.Response) (octets : List UInt8)
    (h : c.Receives n earlier k response octets) : ∃ result, c.Concludes n earlier k result := by
  by_cases hstatus : 200 ≤ response.status ∧ response.status ≤ 299
  · by_cases hspell : ∃ r, Spell octets r
    · obtain ⟨⟨choices⟩, hr⟩ := hspell
      cases choices with
      | nil => exact ⟨_, .noChoices response octets h hstatus hr⟩
      | cons first others =>
        obtain ⟨index, role, content⟩ := first
        exact ⟨_, .answered response octets h hstatus index role content others hr⟩
    · exact ⟨_, .malformed response octets h hstatus (not_exists.mp hspell)⟩
  · exact ⟨_, .refused response octets h (by omega)⟩

/-- There is an end for every check. -/
theorem exists_concludes : ∃ result, c.Concludes n earlier k result := by
  cases haddress : Url.parse (Text.trim k.url) with
  | error e => exact ⟨_, .noAddress e haddress⟩
  | ok url =>
    by_cases hkey : ∃ key, c.HasKey k key
    · obtain ⟨key, hkey⟩ := hkey
      have hasks : c.Asks k _ := ⟨url, key, haddress, hkey, rfl⟩
      cases houtcome : n.answer earlier _ with
      | error failure => exact ⟨_, .noResponse _ hasks failure houtcome⟩
      | ok response =>
        cases hbody : response.body with
        | error failure => exact ⟨_, .noBody _ hasks response houtcome failure hbody⟩
        | ok octets =>
          exact c.exists_concludes_of_receives n earlier k response octets
            ⟨_, hasks, houtcome, hbody⟩
    · exact ⟨_, .noKey url haddress (not_exists.mp hkey)⟩

end Client

end Crawlability.Perplexity
