import Crawlability.Text.Composition
import Crawlability.Url.Idna.Classes
import Crawlability.Url.Idna.Expansions
import Crawlability.Url.Idna.Shifts
import Crawlability.Url.Punycode

/-!
Domain names beyond ASCII. A name is first mapped: letters become small, some characters are
replaced or dropped and some refused, and the rest is composed. Each label that is not ASCII by then
is checked and written in Punycode; labels that come in Punycode are checked in their decoded form.
-/
namespace Crawlability.Url.Idna

open Text (Range Run)

def isAscii (c : Char) : Bool := c.toNat < 0x80

/-- What stands for a character in a domain name, `none` if it is refused. -/
def mapChar (c : Char) : Option (List Char) :=
  if isAscii c then some [c.toLower]
  else if Range.anyContains dropped c then some []
  else if Range.anyContains refused c then none
  else match Run.image? shifts c.toNat with
    | some n => some [.ofNat n]
    | none =>
      match expansions.find? (·.code == c.toNat) with
      | some expansion => some (expansion.replacement.map .ofNat)
      | none => some [c]

/-- The mapped and composed form of a name. -/
def normalize? (name : List Char) : Option (List Char) :=
  (name.mapM mapChar).map fun parts => Text.compose parts.flatten

/-- The prefix of labels in Punycode. -/
def acePrefix : List Char := "xn--".toList

/-- How a character takes part in the writing direction. -/
inductive Direction where
  | left
  | right
  | arabicDigit
  | europeanDigit
  | nonSpacing
  | other
deriving Repr, DecidableEq

def Direction.of (c : Char) : Direction :=
  if isAscii c then
    if c.isAlpha then .left else if c.isDigit then .europeanDigit else .other
  else if Range.anyContains rightToLeft c || Range.anyContains arabicLetters c then .right
  else if Range.anyContains arabicDigits c then .arabicDigit
  else if Range.anyContains europeanDigits c then .europeanDigit
  else if Range.anyContains nonSpacingMarks c then .nonSpacing
  else if Range.anyContains numberSigns c || Range.anyContains neutrals c then .other
  else .left

/-- The characters make a name one that is written in both directions. -/
def runsRight (label : List Char) : Bool :=
  label.any fun c => Direction.of c == .right || Direction.of c == .arabicDigit

/-- The direction of the last character that is no mark. -/
def lastDirection? (directions : List Direction) : Option Direction :=
  directions.reverse.find? (· != .nonSpacing)

/-- A label of a name in both directions keeps to one of them from end to end. -/
def keepsDirection (label : List Char) : Bool :=
  let directions := label.map Direction.of
  match directions with
  | [] => true
  | .right :: _ =>
    !directions.contains .left &&
      !(directions.contains .europeanDigit && directions.contains .arabicDigit) &&
      match lastDirection? directions with
      | some .right | some .europeanDigit | some .arabicDigit => true
      | _ => false
  | .left :: _ =>
    !directions.contains .right && !directions.contains .arabicDigit &&
      match lastDirection? directions with
      | some .left | some .europeanDigit => true
      | _ => false
  | _ => false

/-- The nearest character that joining does not look through satisfies the test. -/
def joins (test : Char → Bool) (s : List Char) : Bool :=
  match s.find? (!Range.anyContains joinTransparent ·) with
  | none => false
  | some c => test c

/-- Joiners stand behind a virama only; a non-joiner may also part two letters that would join.
`before` holds the characters that precede, the last one first. -/
def joinersFit (before : List Char) : List Char → Bool
  | [] => true
  | c :: rest =>
    let afterVirama := before.head?.any fun v => Text.combiningClass v.toNat == 9
    let parts :=
      joins (fun v => Range.anyContains joinLeft v || Range.anyContains joinBoth v) before &&
        joins (fun v => Range.anyContains joinRight v || Range.anyContains joinBoth v) rest
    let fits :=
      if c = '\u200D' then afterVirama
      else if c = '\u200C' then afterVirama || parts
      else true
    fits && joinersFit (c :: before) rest

/-- A label may stand in a name: it begins with no mark and its joiners fit. -/
def isLabel (label : List Char) : Bool :=
  !label.head?.any (Range.anyContains marks) && joinersFit [] label

/-- A decoded label is as mapping leaves it and could not be written in ASCII. -/
def isDecodedLabel (label : List Char) : Bool :=
  !label.all isAscii && !acePrefix.isPrefixOf label && isLabel label &&
    normalize? label == some label

/-- The label as it reads, if it may stand in a name. -/
def readable? (label : List Char) : Option (List Char) :=
  if acePrefix.isPrefixOf label then
    match Punycode.decode? (label.drop 4) with
    | none => none
    | some decoded => if isDecodedLabel decoded then some decoded else none
  else if isLabel label then some label
  else none

/-- The ASCII form of a label. -/
def asciiLabel (label : List Char) : List Char :=
  if label.all isAscii then label else acePrefix ++ Punycode.encode label

/-- The labels of a name, empty ones included. -/
def labels (name : List Char) : List (List Char) := name.splitOnP (· == '.')

/-- The ASCII form of a name, `none` if there is none. -/
def toAscii? (name : List Char) : Option (List Char) :=
  let small := name.map Char.toLower
  if name.all isAscii && !(labels small).any acePrefix.isPrefixOf then some small
  else match normalize? name with
    | none => none
    | some normal =>
      let parts := labels normal
      match parts.mapM readable? with
      | none => none
      | some readable =>
        if readable.any runsRight && !readable.all keepsDirection then none
        else some (['.'].intercalate (parts.map asciiLabel))

end Crawlability.Url.Idna
