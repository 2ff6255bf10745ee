import Crawlability.Http.Client
import Crawlability.Perplexity.Chat
import Crawlability.Text.Blank
import Crawlability.Text.Excerpt

/-!
Asking Perplexity whether it can reach a page. The answer is the first choice of its response.
-/
namespace Crawlability.Perplexity

structure Client where
  http : Http.Client
  config : Config.Perplexity
deriving Repr, DecidableEq

/-- What a caller wants to know. -/
structure Check where
  url : String
  apiKey? : Option String := none
  model? : Option String := none
deriving Repr, DecidableEq

def defaultModel : String := "sonar-pro"

/-- The first of two texts that is there and not blank, as it is. -/
def firstPresent? (argument? fallback? : Option String) : Option String :=
  (argument?.filter (!Text.isAllBlank ·)).or (fallback?.filter (!Text.isAllBlank ·))

def prompt (url : Url) : String :=
  "Access and summarize this URL, explicitly noting if access fails (robots, paywall, 404, or " ++
    "blocked crawler). URL: " ++ url.text ++ ". Include whether the content was retrievable."

def event (level : Log.Level) (message : String) : Log.Event :=
  ⟨"crawl_signal::perplexity", level, message⟩

/-- The answer in a body that came with a success. The decoder words what is wrong with one that is
no chat response. -/
def ChatResponse.answer (decoder : Http.Decoder) (octets : List UInt8) : Except Error String :=
  match ChatResponse.parse? octets with
  | none => .error (.decoding (decoder.complaint octets))
  | some ⟨[]⟩ => .error (.decoding "No choices returned")
  | some ⟨choice :: _⟩ => .ok choice.message.content

namespace Client

def request (c : Client) (url : Url) (key model : String) : Http.Request :=
  let chat : ChatRequest := ⟨model, [.ofUser (prompt url)]⟩
  c.http.postRequest c.config.endpoint chat.wire (some key)

/-- Sends the question with a key and reads the answer. -/
def ask (c : Client) (url : Url) (key model : String) : Session (Except Error String) := do
  match ← Session.ask (c.request url key model) with
  | .error failure => return .error (← Http.reportFailure c.config.endpoint failure)
  | .ok response =>
    match response.body with
    | .error failure => return .error (← Http.reportFailure c.config.endpoint failure)
    | .ok octets =>
      if response.isSuccess then
        match ChatResponse.answer response.decoder octets with
        | .error e => return .error e
        | .ok answer =>
          Session.say (event .info
            ("Perplexity check completed for " ++ url.text ++ " using " ++ model))
          return .ok answer
      else
        let body := Text.Utf8.decodeLossy octets
        Session.say (event .error ("Perplexity call failed (status " ++ toString response.status ++
          "): " ++ Text.excerpt 200 body))
        return .error (.http response.status (Text.excerpt 500 body))

/-- Asks for a summary of the page at an address; blanks around it do not count. -/
def check (c : Client) (k : Check) : Session (Except Error String) :=
  match Url.parse (Text.trim k.url) with
  | .error e => return .error (.invalidInput ("Invalid URL " ++ k.url ++ ": " ++ e.message))
  | .ok url =>
    match firstPresent? k.apiKey? c.config.apiKey? with
    | none => return .error (.missingCredential "Perplexity")
    | some key => c.ask url key ((firstPresent? k.model? c.config.model?).getD defaultModel)

end Client

end Crawlability.Perplexity
