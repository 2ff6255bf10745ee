import Crawlability.Text.Lowercase
import Crawlability.Text.Utf8

/-!
What the libraries that read bodies make of octets. They know the charsets and they word their own
complaints, so both are left to them; what is relied on is that UTF-8 is read where no Content-Type
says otherwise.
-/
namespace Crawlability.Http

structure Decoder where
  /-- The text of a body that came with these header fields. -/
  text : List (String × List UInt8) → List UInt8 → String
  /-- The words for what is wrong with octets that should spell a value of JSON. -/
  complaint : List UInt8 → String
  /-- Without a Content-Type, octets of UTF-8 are read as the text that they were written from,
  unless a byte order mark stands in front. -/
  text_encode : ∀ fields s,
    (∀ field ∈ fields, Text.equalsIgnoringAsciiCase field.1 "content-type" = false) →
    s.toList.head? ≠ some '\uFEFF' → text fields (Text.Utf8.encode s) = s

end Crawlability.Http
