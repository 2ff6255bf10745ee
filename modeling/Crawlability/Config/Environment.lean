import Crawlability.Config.Basic
import Crawlability.Text.Blank

/-!
Fallback credentials from the environment. A variable that is set and not blank replaces what the
configuration has, just as it is; one that is blank is as good as unset.
-/
namespace Crawlability.Config

/-- The values of the variables that are set. -/
abbrev Environment := String → Option String

/-- The variables that count. -/
def variableNames : List String :=
  ["INDEXNOW_KEY", "INDEXNOW_KEY_LOCATION", "PERPLEXITY_API_KEY", "PERPLEXITY_MODEL"]

/-- The value of a variable that is set and not blank. -/
def Environment.present? (env : Environment) (name : String) : Option String :=
  (env name).filter (!Text.isAllBlank ·)

def overlay (c : Config) (env : Environment) : Config where
  transport := c.transport
  indexNow := { c.indexNow with
    key? := (env.present? "INDEXNOW_KEY").or c.indexNow.key?
    keyLocation? := (env.present? "INDEXNOW_KEY_LOCATION").or c.indexNow.keyLocation? }
  perplexity := { c.perplexity with
    apiKey? := (env.present? "PERPLEXITY_API_KEY").or c.perplexity.apiKey?
    model? := (env.present? "PERPLEXITY_MODEL").or c.perplexity.model? }
  logging := c.logging

end Crawlability.Config
