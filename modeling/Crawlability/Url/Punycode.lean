/-!
Punycode: the letters, digits and hyphens that stand for a label beyond ASCII. The ASCII characters
come first; each further character is told by how far a counter moves that runs through all places
of the label for one code point after the other. The moves are numbers of base 36 whose thresholds
adapt to the moves before.
-/
namespace Crawlability.Url.Punycode

/-- The digit of a value below 36: a letter, and then a decimal digit. -/
def digit (value : Nat) : Char :=
  if value < 26 then .ofNat (0x61 + value) else .ofNat (0x30 + (value - 26))

/-- The value of a lowercase letter or a decimal digit. -/
def value? (c : Char) : Option Nat :=
  if c.isLower then some (c.toNat - 0x61)
  else if c.isDigit then some (c.toNat - 0x30 + 26)
  else none

/-- A digit below the threshold of its place ends a number. -/
def threshold (place bias : Nat) : Nat := min 26 (max 1 (place - bias))

theorem threshold_pos (place bias : Nat) : 1 ≤ threshold place bias := by
  unfold threshold
  omega

theorem threshold_le (place bias : Nat) : threshold place bias ≤ 26 := by
  unfold threshold
  omega

/-- Divides by 35 until little is left, adding a place for each division. -/
def settle (delta place : Nat) : Nat :=
  if 455 < delta then settle (delta / 35) (place + 36)
  else place + 36 * delta / (delta + 38)
termination_by delta
decreasing_by omega

/-- The bias after a move of `delta` in a label that has `size` characters by then. -/
def adapt (delta size : Nat) (first : Bool) : Nat :=
  let delta := if first then delta / 700 else delta / 2
  settle (delta + delta / size) 0

/-- The largest number that may occur in a label. -/
def limit : Nat := Nat.pow 2 32 - 1

/-- What has been read of a label: its characters, the last code point and place, and the number
that is being read, with the weight of its next digit. -/
structure Decoder where
  label : List Nat
  code : Nat := 0x80
  place : Nat := 0
  start : Nat := 0
  bias : Nat := 72
  weight : Nat := 1
  column : Nat := 36
deriving Repr, DecidableEq

namespace Decoder

/-- Sets the character that a finished number tells. -/
def insert (d : Decoder) (place : Nat) : Decoder :=
  let size := d.label.length + 1
  let spot := place % size
  { label := d.label.take spot ++ (d.code + place / size) :: d.label.drop spot
    code := d.code + place / size
    place := spot + 1
    start := spot + 1
    bias := adapt (place - d.start) size (d.start == 0) }

/-- Reads the remaining digits; the last number has to be finished. -/
def run (d : Decoder) : List Char → Option (List Nat)
  | [] => if d.weight = 1 then some d.label else none
  | c :: rest =>
    match value? c with
    | none => none
    | some value =>
      let place := d.place + value * d.weight
      if limit < place then none
      else
        let t := threshold d.column d.bias
        if value < t then run (d.insert place) rest
        else run { d with place, weight := d.weight * (36 - t), column := d.column + 36 } rest

end Decoder

/-- The label without its ASCII characters, and those. The last hyphen divides them. -/
def split (s : List Char) : List Char × List Char :=
  let digits := (s.reverse.takeWhile (· != '-')).reverse
  if digits.length + 1 < s.length then (s.take (s.length - digits.length - 1), digits)
  else ([], s)

/-- The label that the digits stand for, if they stand for one. -/
def decode? (s : List Char) : Option (List Char) :=
  let (basic, digits) := split s
  if basic.any (0x80 ≤ ·.toNat) then none
  else match Decoder.run { label := basic.map Char.toNat } digits with
    | none => none
    | some codes => codes.mapM fun n => if h : n.isValidChar then some (Char.ofNatAux n h) else none

/-- The digits of a number from the given column on. -/
def number (bias column n : Nat) : List Char :=
  let t := threshold column bias
  if n < t then [digit n]
  else digit (t + (n - t) % (36 - t)) :: number bias (column + 36) ((n - t) / (36 - t))
termination_by n
decreasing_by
  have h := threshold_pos column bias
  exact Nat.lt_of_le_of_lt (Nat.div_le_self _ _) (by omega)

/-- What has been written of a label, and how many of its characters that covers. -/
structure Encoder where
  digits : List Char := []
  delta : Nat := 0
  bias : Nat := 72
  covered : Nat
deriving Repr, DecidableEq

namespace Encoder

/-- Passes one character of the label while the code point `code` is being set. -/
def pass (basic code : Nat) (e : Encoder) (c : Char) : Encoder :=
  if c.toNat < code then { e with delta := e.delta + 1 }
  else if c.toNat = code then
    { digits := e.digits ++ number e.bias 36 e.delta
      delta := 0
      bias := adapt e.delta (e.covered + 1) (e.covered == basic)
      covered := e.covered + 1 }
  else e

/-- Sets the code points of the list, which are in ascending order, `next` being the first that has
not been tried. -/
def run (label : List Char) (basic : Nat) (e : Encoder) (next : Nat) : List Nat → Encoder
  | [] => e
  | code :: rest =>
    let e := { e with delta := e.delta + (code - next) * (e.covered + 1) }
    let e := label.foldl (pass basic code) e
    run label basic { e with delta := e.delta + 1 } (code + 1) rest

end Encoder

/-- The digits that stand for a label. -/
def encode (label : List Char) : List Char :=
  let basic := label.filter (·.toNat < 0x80)
  let codes := ((label.map Char.toNat).filter (0x80 ≤ ·)).mergeSort.eraseDups
  let e := Encoder.run label basic.length { covered := basic.length } 0x80 codes
  (if basic.isEmpty then [] else basic ++ ['-']) ++ e.digits

end Crawlability.Url.Punycode
