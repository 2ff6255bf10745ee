import Crawlability.Url.Percent

/-!
Addresses of the fourth version as hosts write them: one to four numbers in decimal, octal or
hexadecimal, the last of which fills all octets that are left.
-/
namespace Crawlability.Url.Ipv4

/-- Reads digits of the base; `none` if there is another character. -/
def digits? (base : Nat) (s : List Char) : Option Nat :=
  s.foldl (fun value? c =>
    match value?, Percent.hexValue? c with
    | some value, some digit => if digit < base then some (value * base + digit) else none
    | _, _ => none) (some 0)

/-- A number in decimal, in hexadecimal after `0x`, or in octal after `0`. -/
def number? : List Char → Option Nat
  | [] => none
  | '0' :: 'x' :: rest | '0' :: 'X' :: rest => digits? 16 rest
  | ['0'] => some 0
  | '0' :: rest => digits? 8 rest
  | s => digits? 10 s

/-- The parts of a host; a point at its end is passed over. -/
def parts (host : List Char) : List (List Char) :=
  let parts := host.splitOnP (· == '.')
  if 1 < parts.length && parts.getLast? == some [] then parts.dropLast else parts

/-- The host ends in a number and thus is an address or nothing. -/
def endsInNumber (host : List Char) : Bool :=
  match (parts host).getLast? with
  | none => false
  | some last => (!last.isEmpty && last.all Char.isDigit) || (number? last).isSome

/-- The address of a host that ends in a number. -/
def parse? (host : List Char) : Option Nat :=
  match (parts host).mapM number? with
  | none => none
  | some numbers =>
    match numbers.getLast? with
    | none => none
    | some last =>
      let leading := numbers.dropLast
      let room := Nat.pow 256 (4 - leading.length)
      if 4 < numbers.length || leading.any (255 < ·) || room ≤ last then none
      else some (leading.foldl (fun n octet => n * 256 + octet) 0 * room + last)

/-- The four octets in decimal. -/
def text (address : Nat) : String :=
  String.intercalate "." ([3, 2, 1, 0].map fun i => toString (address / Nat.pow 256 i % 256))

end Crawlability.Url.Ipv4
