import Crawlability.Url.Percent

/-!
Addresses of the sixth version: eight pieces of sixteen bits, written in hexadecimal between colons.
Two colons stand for a run of zeros, and the last two pieces may be written like an address of the
fourth version.
-/
namespace Crawlability.Url.Ipv6

/-- A decimal number up to 255 without a leading zero. -/
def octet? (s : List Char) : Option Nat :=
  if s.isEmpty || !s.all Char.isDigit || (1 < s.length && s.head? == some '0') || 3 < s.length then
    none
  else
    let value := s.foldl (fun value c => value * 10 + (c.toNat - 0x30)) 0
    if value ≤ 255 then some value else none

/-- The two pieces that four decimal octets make up. -/
def embedded? (s : List Char) : Option (List Nat) :=
  match (s.splitOnP (· == '.')).mapM octet? with
  | some [a, b, c, d] => some [a * 256 + b, c * 256 + d]
  | _ => none

/-- What has been read: the pieces so far, and how many of them stand before the run of zeros. -/
structure Reader where
  pieces : List Nat := []
  zerosAt : Option Nat := none
deriving Repr, DecidableEq

namespace Reader

/-- The places that are taken, of which the run of zeros takes at least one. -/
def taken (r : Reader) : Nat := r.pieces.length + if r.zerosAt.isSome then 1 else 0

/-- All eight pieces, the run of zeros filled in. -/
def finish? (r : Reader) : Option (List Nat) :=
  match r.zerosAt with
  | some n =>
    some (r.pieces.take n ++ List.replicate (8 - r.pieces.length) 0 ++ r.pieces.drop n)
  | none => if r.pieces.length = 8 then some r.pieces else none

/-- Reads the rest of an address; each step takes a piece, so `steps` need not exceed nine. -/
def run : Nat → Reader → List Char → Option (List Nat)
  | _, r, [] => r.finish?
  | 0, _, _ :: _ => none
  | steps + 1, r, c :: rest =>
    if r.taken = 8 then none
    else if c = ':' then
      if r.zerosAt.isSome then none
      else run steps { r with zerosAt := some r.pieces.length } rest
    else
      let head := (c :: rest).takeWhile fun c => (Percent.hexValue? c).isSome
      let head := head.take 4
      let value := head.foldl (fun value c => value * 16 + (Percent.hexValue? c).getD 0) 0
      match (c :: rest).drop head.length with
      | [] => { r with pieces := r.pieces ++ [value] }.finish?
      | '.' :: _ =>
        if head.isEmpty || 6 < r.taken then none
        else match embedded? (c :: rest) with
          | none => none
          | some pieces => { r with pieces := r.pieces ++ pieces }.finish?
      | ':' :: rest =>
        if rest.isEmpty then none else run steps { r with pieces := r.pieces ++ [value] } rest
      | _ :: _ => none

end Reader

/-- The eight pieces of an address. -/
def parse? (s : List Char) : Option (List Nat) :=
  match s with
  | ':' :: ':' :: rest => Reader.run 9 { zerosAt := some 0 } rest
  | ':' :: _ => none
  | s => Reader.run 9 {} s

/-- Start and length of the first longest run of zeros; `start` counts the pieces before the list
and `run` the zeros directly before it. -/
def longestZeros (start run : Nat) (best : Nat × Nat) : List Nat → Nat × Nat
  | [] => best
  | 0 :: rest =>
    let run := run + 1
    let best := if best.2 < run then (start + 1 - run, run) else best
    longestZeros (start + 1) run best rest
  | _ :: rest => longestZeros (start + 1) 0 best rest

def hexText (n : Nat) : String := .ofList (Nat.toDigits 16 n)

def joinPieces (pieces : List Nat) : String := String.intercalate ":" (pieces.map hexText)

/-- The pieces in hexadecimal; the first longest run of at least two zeros is left out. -/
def text (pieces : List Nat) : String :=
  let (start, size) := longestZeros 0 0 (0, 0) pieces
  if size < 2 then joinPieces pieces
  else joinPieces (pieces.take start) ++ "::" ++ joinPieces (pieces.drop (start + size))

end Crawlability.Url.Ipv6
