/-!
Reading octets as UTF-8. The reading marks what is ill-formed instead of failing: `none` stands for
each longest piece that begins a character and cannot be completed, and for each octet that begins
none. A text is well-formed when nothing is marked; a lenient reader puts a replacement character in
place of every mark.
-/
namespace Crawlability.Text.Utf8

/-- A character that has begun: how many octets are missing, the range of the next one, and the bits
read so far. -/
structure Pending where
  missing : Nat
  low : Nat
  high : Nat
  code : Nat
deriving Repr, DecidableEq

/-- What an octet is when no character is pending. -/
inductive Start where
  | whole (code : Nat)
  | lead (pending : Pending)
  | stray
deriving Repr, DecidableEq

/-- The ranges of the second octet leave out overlong forms, surrogates and what lies beyond the
last plane. -/
def Start.ofOctet (b : Nat) : Start :=
  if b < 0x80 then .whole b
  else if b < 0xC2 then .stray
  else if b < 0xE0 then .lead ⟨1, 0x80, 0xBF, b - 0xC0⟩
  else if b = 0xE0 then .lead ⟨2, 0xA0, 0xBF, 0⟩
  else if b = 0xED then .lead ⟨2, 0x80, 0x9F, 0xD⟩
  else if b < 0xF0 then .lead ⟨2, 0x80, 0xBF, b - 0xE0⟩
  else if b = 0xF0 then .lead ⟨3, 0x90, 0xBF, 0⟩
  else if b < 0xF4 then .lead ⟨3, 0x80, 0xBF, b - 0xF0⟩
  else if b = 0xF4 then .lead ⟨3, 0x80, 0x8F, 4⟩
  else .stray

/-- Reads the rest of the octets after what is pending. -/
def readFrom : Option Pending → List UInt8 → List (Option Char)
  | none, [] => []
  | some _, [] => [none]
  | none, b :: rest =>
    match Start.ofOctet b.toNat with
    | .whole code => some (.ofNat code) :: readFrom none rest
    | .lead pending => readFrom (some pending) rest
    | .stray => none :: readFrom none rest
  | some p, b :: rest =>
    if p.low ≤ b.toNat ∧ b.toNat ≤ p.high then
      let code := p.code * 0x40 + (b.toNat - 0x80)
      if p.missing ≤ 1 then some (.ofNat code) :: readFrom none rest
      else readFrom (some ⟨p.missing - 1, 0x80, 0xBF, code⟩) rest
    else match Start.ofOctet b.toNat with
      | .whole code => none :: some (.ofNat code) :: readFrom none rest
      | .lead pending => none :: readFrom (some pending) rest
      | .stray => none :: none :: readFrom none rest

/-- The characters of the octets, with a mark for each ill-formed piece. -/
def read (octets : List UInt8) : List (Option Char) := readFrom none octets

/-- The text of well-formed octets. -/
def decode? (octets : List UInt8) : Option String := ((read octets).mapM id).map .ofList

/-- The text with a replacement character for each ill-formed piece. -/
def decodeLossy (octets : List UInt8) : String :=
  .ofList ((read octets).map fun c? => c?.getD '\uFFFD')

/-- The octets of a text. -/
def encode (s : String) : List UInt8 := s.toUTF8.toList

end Crawlability.Text.Utf8
