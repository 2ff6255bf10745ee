import Crawlability.Http.Decoder
import Crawlability.Http.Page
import Crawlability.Text.Utf8
import Crawlability.Url.Parser

/-!
Requests, and what may come of one: a response, or a failure before there was one. The body of a
response comes after its head and may fail on its own.

A request is what the program hands to the library that transfers it. What the library does on its
own is no part of it: the address is normalised, user information in it becomes an authorization of
its own, and redirections are followed. So one request stands for a whole exchange, and the outcome
is that of its last response.
-/
namespace Crawlability.Http

inductive Method where
  | get
  | post
deriving Repr, DecidableEq

namespace Method

def name : Method → String
  | get => "GET"
  | post => "POST"

end Method

/-- A request as the program hands it over; its target is a text that may turn out to be no
address. -/
structure Request where
  method : Method
  target : String
  userAgent : String
  timeoutSecs : Nat
  authorization? : Option String := none
  /-- The text of a JSON value. -/
  body? : Option String := none
deriving Repr, DecidableEq

/-- How a transfer fails. -/
inductive Failure.Kind where
  /-- It takes too long. -/
  | timeout
  /-- No server is reached. -/
  | connection
  /-- The request cannot be put into its written form, so that none is sent. -/
  | unsendable
  /-- The transfer breaks off. -/
  | broken
deriving Repr, DecidableEq

/-- A transfer that failed, and the words of the library for it. -/
structure Failure where
  kind : Failure.Kind
  text : String
deriving Repr, DecidableEq

/-- A response; the values of its header fields are octets. -/
structure Response where
  status : Nat
  fields : List (String × List UInt8)
  body : Except Failure (List UInt8)
  decoder : Decoder

abbrev Outcome := Except Failure Response

/-- Texts that may be the value of a header field: a tab is the only control in them. -/
def isFieldText (s : String) : Bool :=
  s.toList.all fun c => c == '\t' || (0x20 ≤ c.toNat && c.toNat != 0x7F)

namespace Request

/-- The address that is asked for. -/
def address? (r : Request) : Option Url := (Url.parse r.target).toOption

/-- The request can be written: its target is an address of the web and its credentials are the text
of a header field. -/
def isSendable (r : Request) : Bool :=
  (r.address?.any fun url => url.scheme == "http" || url.scheme == "https") &&
    r.authorization?.all isFieldText

end Request

namespace Response

def isSuccess (r : Response) : Bool := isSuccessStatus r.status

/-- The octets of its body as a text. -/
def text (r : Response) (octets : List UInt8) : String := r.decoder.text r.fields octets

/-- The header fields by name; octets that are no text are replaced. -/
def headers (r : Response) : Headers :=
  .ofList (r.fields.map fun (name, value) => (name, Text.Utf8.decodeLossy value))

end Response

end Crawlability.Http
