import Crawlability.Config.Document
import Crawlability.Config.Environment
import Crawlability.Config.Validation
import Crawlability.Text.Utf8

/-!
From the content of a file and the environment to the configuration that is in force.
-/
namespace Crawlability.Config

/-- What came of reading a file: its octets, or why there are none. -/
abbrev FileContent := Except Files.Error (List UInt8)

/-- The configuration in a file, which has to keep all bounds. -/
def load (file : FileContent) : Except Error Config :=
  match file with
  | .error cause => .error (.unreadable cause)
  | .ok octets =>
    match Text.Utf8.decode? octets with
    | none => .error (.unreadable .notText)
    | some text =>
      match parse? text with
      | none => .error .malformed
      | some config =>
        match config.check with
        | .error e => .error e
        | .ok () => .ok config

/-- The configuration in a file, or the default one, under the environment. -/
def resolve (file? : Option FileContent) (env : Environment) : Except Error Config :=
  match (file?.map load).getD (.ok {}) with
  | .error e => .error e
  | .ok config =>
    let config := config.overlay env
    match config.check with
    | .error e => .error e
    | .ok () => .ok config

end Crawlability.Config
