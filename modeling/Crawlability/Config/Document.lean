import Crawlability.Config.Basic
import Crawlability.Toml.Reader
import Crawlability.Toml.Record

/-!
The configuration that a TOML document spells. Sections and fields may be missing and have their
defaults then; unknown ones are passed over. A known field of another type spoils the document.
-/
namespace Crawlability.Config

def Transport.ofToml? (section? : Option Toml) : Option Transport :=
  match section? with
  | none => some {}
  | some value => do
    let field ← value.fields? ["timeout-secs", "user-agent"]
    let d : Transport := {}
    return {
      timeoutSecs := ← Toml.fieldOr d.timeoutSecs Toml.longWord? (field "timeout-secs")
      userAgent := ← Toml.fieldOr d.userAgent Toml.text? (field "user-agent") }

def IndexNow.ofToml? (section? : Option Toml) : Option IndexNow :=
  match section? with
  | none => some {}
  | some value => do
    let field ← value.fields? ["endpoint", "key", "key-location", "max-retries", "base-delay-ms"]
    let d : IndexNow := {}
    return {
      endpoint := ← Toml.fieldOr d.endpoint Toml.text? (field "endpoint")
      key? := ← Toml.optionalText? (field "key")
      keyLocation? := ← Toml.optionalText? (field "key-location")
      maxRetries := ← Toml.fieldOr d.maxRetries Toml.word? (field "max-retries")
      baseDelayMs := ← Toml.fieldOr d.baseDelayMs Toml.longWord? (field "base-delay-ms") }

def Perplexity.ofToml? (section? : Option Toml) : Option Perplexity :=
  match section? with
  | none => some {}
  | some value => do
    let field ← value.fields? ["endpoint", "api-key", "model"]
    let d : Perplexity := {}
    return {
      endpoint := ← Toml.fieldOr d.endpoint Toml.text? (field "endpoint")
      apiKey? := ← Toml.optionalText? (field "api-key")
      model? := ← Toml.optionalText? (field "model") }

def Logging.ofToml? (section? : Option Toml) : Option Logging :=
  match section? with
  | none => some {}
  | some value => do
    let field ← value.fields? ["path"]
    return { path? := ← Toml.optionalText? (field "path") }

/-- The configuration of the table that a document spells. -/
def ofEntries? (entries : List (String × Toml)) : Option Config := do
  return {
    transport := ← Transport.ofToml? (Toml.lookup? entries "http")
    indexNow := ← IndexNow.ofToml? (Toml.lookup? entries "indexnow")
    perplexity := ← Perplexity.ofToml? (Toml.lookup? entries "perplexity")
    logging := ← Logging.ofToml? (Toml.lookup? entries "logging") }

def parse? (text : String) : Option Config := (Toml.parse? text).bind ofEntries?

end Crawlability.Config
