import Crawlability.Files.Error

/-!
Why a configuration cannot be used.
-/
namespace Crawlability.Config

inductive Error where
  /-- The file cannot be read. -/
  | unreadable (cause : Files.Error)
  /-- The file is no document of the expected form. -/
  | malformed
  /-- A value is out of its bounds. -/
  | validation (finding : String)
  /-- An endpoint is no address of the web. -/
  | invalidUrl (finding : String)
deriving Repr, DecidableEq

namespace Error

/-- What is said of a document that is malformed. -/
def malformedText : String := "no configuration of the expected form"

def message : Error → String
  | unreadable cause => "Failed to read config file: " ++ cause.message
  | malformed => "Failed to parse TOML: " ++ malformedText
  | validation finding => "Validation error: " ++ finding
  | invalidUrl finding => "Invalid URL in config: " ++ finding

/-- The error and what caused it. -/
def causes (e : Error) : List String :=
  e.message :: match e with
    | unreadable cause => [cause.message]
    | malformed => [malformedText]
    | _ => []

end Error

end Crawlability.Config
