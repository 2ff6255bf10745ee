import Crawlability.Text.Composition.Table

/-!
Canonical composition: a text is taken apart into base characters and marks, marks are brought into
the order of their classes, and what can be put together is put together again. Two texts that look
alike by the canonical rules have the same composed form.
-/
namespace Crawlability.Text

open Crawlability.Text.Composition

/-- The class of a mark; other characters have class 0. -/
def combiningClass (n : Nat) : Nat :=
  ((classes.find? fun r => r.first ≤ n && n ≤ r.last).map (·.order)).getD 0

/-- Hangul syllables come in rows of 588 for each leading consonant and 28 for each vowel. -/
def decomposeHangul (n : Nat) : List Nat :=
  let index := n - 0xAC00
  let tail := index % 28
  let pair := [0x1100 + index / 588, 0x1161 + index % 588 / 28]
  if tail = 0 then pair else pair ++ [0x11A7 + tail]

/-- The parts of a character; at most `depth` times a first part is taken apart in its turn. -/
def decomposeCode : Nat → Nat → List Nat
  | 0, n => [n]
  | depth + 1, n =>
    if 0xAC00 ≤ n ∧ n ≤ 0xD7A3 then decomposeHangul n
    else match pairs.find? (·.whole == n) with
      | none => [n]
      | some pair => decomposeCode depth pair.first ++ [pair.second]

/-- Puts a mark in front of characters that are in order, behind the marks of lower classes. -/
def insertMark (n : Nat) : List Nat → List Nat
  | [] => [n]
  | head :: rest =>
    if combiningClass head = 0 || combiningClass n ≤ combiningClass head then n :: head :: rest
    else head :: insertMark n rest

/-- Characters with each run of marks in the order of their classes. -/
def orderMarks : List Nat → List Nat
  | [] => []
  | n :: rest =>
    if combiningClass n = 0 then n :: orderMarks rest else insertMark n (orderMarks rest)

/-- The character that two characters make up. -/
def composePair? (first second : Nat) : Option Nat :=
  if 0x1100 ≤ first ∧ first < 0x1113 ∧ 0x1161 ≤ second ∧ second < 0x1176 then
    some (0xAC00 + (first - 0x1100) * 588 + (second - 0x1161) * 28)
  else if 0xAC00 ≤ first ∧ first ≤ 0xD7A3 ∧ (first - 0xAC00) % 28 = 0 ∧
      0x11A8 ≤ second ∧ second < 0x11C3 then
    some (first + (second - 0x11A7))
  else (pairs.find? fun p => p.first == first && p.second == second).map (·.whole)

/-- A base character and what has been read behind it. -/
structure Cluster where
  base : Nat
  /-- Marks that could not be joined to the base, the last one first. -/
  loose : List Nat := []
deriving Repr, DecidableEq

namespace Cluster

def codes (c : Cluster) : List Nat := c.base :: c.loose.reverse

/-- No loose mark keeps a character of the class away from the base. -/
def admits (c : Cluster) (order : Nat) : Bool :=
  match c.loose with
  | [] => true
  | last :: _ => combiningClass last < order

end Cluster

/-- Composes what follows a cluster. -/
def composeFrom (c : Cluster) : List Nat → List Nat
  | [] => c.codes
  | n :: rest =>
    let joined? := if c.admits (combiningClass n) then composePair? c.base n else none
    match joined? with
    | some whole => composeFrom { c with base := whole } rest
    | none =>
      if combiningClass n = 0 then c.codes ++ composeFrom ⟨n, []⟩ rest
      else composeFrom { c with loose := n :: c.loose } rest

def composeCodes : List Nat → List Nat
  | [] => []
  | n :: rest =>
    if combiningClass n = 0 then composeFrom ⟨n, []⟩ rest else n :: composeCodes rest

/-- The canonically composed form of a text. -/
def compose (s : List Char) : List Char :=
  let parts := s.flatMap fun c => decomposeCode 4 c.toNat
  (composeCodes (orderMarks parts)).map .ofNat

end Crawlability.Text
