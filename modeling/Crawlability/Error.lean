import Crawlability.Config.Error
import Crawlability.Http.Message

/-!
Why an operation of the program fails.
-/
namespace Crawlability

inductive Error where
  | invalidInput (reason : String)
  /-- Nobody gave the key of a service. -/
  | missingCredential (service : String)
  /-- A server answered with a status that is no success. -/
  | http (status : Nat) (body : String)
  /-- A response is not of the expected form. -/
  | decoding (reason : String)
  | network (target : String) (failure : Http.Failure)
  | unexpected (reason : String)
  | config (cause : Config.Error)
  | file (cause : Files.Error)
deriving Repr, DecidableEq

namespace Error

def message : Error → String
  | invalidInput reason => "Invalid input: " ++ reason
  | missingCredential service =>
    "Missing API key for " ++ service ++ ". Provide via argument or environment variable."
  | http status body => "HTTP error (status " ++ toString status ++ "): " ++ body
  | decoding reason => "Failed to decode response: " ++ reason
  | network target failure => "Request to " ++ target ++ " failed: " ++ failure.text
  | unexpected reason => "Unexpected error: " ++ reason
  | config cause => "Configuration error: " ++ cause.message
  | file cause => "IO error: " ++ cause.message

end Error

end Crawlability
