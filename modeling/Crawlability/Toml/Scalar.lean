import Crawlability.Decimal
import Crawlability.Toml.Basic
import Crawlability.Url.Percent

/-!
The values of TOML that hold no others: strings in their four forms, numbers, dates and times, and
truth values. Each reader takes what it can from the head of the input and returns the rest.
-/
namespace Crawlability.Toml

/-- A value from the head of the input and the rest of it. -/
abbrev Reading (α : Type) := Option (α × List Char)

def isSpace (c : Char) : Bool := c == ' ' || c == '\t'

def skipSpace (s : List Char) : List Char := s.dropWhile isSpace

/-- Characters of a line: no control but the tab. -/
def isLineChar (c : Char) : Bool := c == '\t' || (0x20 ≤ c.toNat && c.toNat != 0x7F)

/-- What follows a line end at the head of the input. -/
def afterNewline? : List Char → Option (List Char)
  | '\n' :: rest => some rest
  | '\r' :: '\n' :: rest => some rest
  | _ => none

/-- What follows a word at the head of the input. -/
def afterWord? (word : String) (s : List Char) : Option (List Char) :=
  if word.toList.isPrefixOf s then some (s.drop word.toList.length) else none

/-- The character that a letter behind a backslash stands for. -/
def unescape? : Char → Option Char
  | 'b' => some '\x08'
  | 't' => some '\t'
  | 'n' => some '\n'
  | 'f' => some '\x0c'
  | 'r' => some '\r'
  | '"' => some '"'
  | '\\' => some '\\'
  | _ => none

/-- The character with the number that hexadecimal digits spell. -/
def codePoint? (digits : List Char) : Option Char :=
  match digits.mapM Url.Percent.hexValue? with
  | none => none
  | some values =>
    let n := values.foldl (fun n value => n * 16 + value) 0
    if h : n.isValidChar then some (Char.ofNatAux n h) else none

def consChar (c : Char) (r : Reading (List Char)) : Reading (List Char) :=
  r.map fun (s, rest) => (c :: s, rest)

/-- Reads a basic string up to its closing quote. -/
def readBasic : List Char → Reading (List Char)
  | [] => none
  | '"' :: rest => some ([], rest)
  | '\\' :: 'u' :: a :: b :: c :: d :: rest =>
    match codePoint? [a, b, c, d] with
    | none => none
    | some char => consChar char (readBasic rest)
  | '\\' :: 'U' :: a :: b :: c :: d :: e :: f :: g :: h :: rest =>
    match codePoint? [a, b, c, d, e, f, g, h] with
    | none => none
    | some char => consChar char (readBasic rest)
  | '\\' :: e :: rest =>
    match unescape? e with
    | none => none
    | some char => consChar char (readBasic rest)
  | c :: rest => if c != '\\' && isLineChar c then consChar c (readBasic rest) else none

/-- Reads a basic string of several lines up to its three closing quotes, before which two more may
stand. While `joining`, blanks and line ends are passed over, as behind a backslash at a line end.
-/
def readBasicLines : (joining : Bool) → List Char → Reading (List Char)
  | _, [] => none
  | _, '"' :: '"' :: '"' :: '"' :: '"' :: rest => some (['"', '"'], rest)
  | _, '"' :: '"' :: '"' :: '"' :: rest => some (['"'], rest)
  | _, '"' :: '"' :: '"' :: rest => some ([], rest)
  | joining, '\r' :: '\n' :: rest =>
    if joining then readBasicLines true rest else consChar '\n' (readBasicLines false rest)
  | joining, '\n' :: rest =>
    if joining then readBasicLines true rest else consChar '\n' (readBasicLines false rest)
  | _, '\\' :: 'u' :: a :: b :: c :: d :: rest =>
    match codePoint? [a, b, c, d] with
    | none => none
    | some char => consChar char (readBasicLines false rest)
  | _, '\\' :: 'U' :: a :: b :: c :: d :: e :: f :: g :: h :: rest =>
    match codePoint? [a, b, c, d, e, f, g, h] with
    | none => none
    | some char => consChar char (readBasicLines false rest)
  | _, '\\' :: e :: rest =>
    match unescape? e with
    | some char => consChar char (readBasicLines false rest)
    | none =>
      if (afterNewline? (skipSpace (e :: rest))).isNone then none
      else if e = '\r' || e = '\n' || isSpace e then readBasicLines true rest
      else none
  | joining, c :: rest =>
    if joining && isSpace c then readBasicLines true rest
    else if c != '\\' && isLineChar c then consChar c (readBasicLines false rest)
    else none

/-- Reads a literal string up to its closing quote. -/
def readLiteral : List Char → Reading (List Char)
  | [] => none
  | '\'' :: rest => some ([], rest)
  | c :: rest => if isLineChar c then consChar c (readLiteral rest) else none

/-- Reads a literal string of several lines up to its three closing quotes, before which two more
may stand. -/
def readLiteralLines : List Char → Reading (List Char)
  | [] => none
  | '\'' :: '\'' :: '\'' :: '\'' :: '\'' :: rest => some (['\'', '\''], rest)
  | '\'' :: '\'' :: '\'' :: '\'' :: rest => some (['\''], rest)
  | '\'' :: '\'' :: '\'' :: rest => some ([], rest)
  | '\r' :: '\n' :: rest => consChar '\n' (readLiteralLines rest)
  | '\n' :: rest => consChar '\n' (readLiteralLines rest)
  | c :: rest => if isLineChar c then consChar c (readLiteralLines rest) else none

/-- A line end directly behind the opening quotes does not belong to the string. -/
def dropFirstNewline (s : List Char) : List Char := (afterNewline? s).getD s

/-- Reads a string that begins with one of the two quotes. -/
def readString? : List Char → Reading String
  | '"' :: '"' :: '"' :: rest =>
    (readBasicLines false (dropFirstNewline rest)).map fun (s, rest) => (.ofList s, rest)
  | '"' :: rest => (readBasic rest).map fun (s, rest) => (.ofList s, rest)
  | '\'' :: '\'' :: '\'' :: rest =>
    (readLiteralLines (dropFirstNewline rest)).map fun (s, rest) => (.ofList s, rest)
  | '\'' :: rest => (readLiteral rest).map fun (s, rest) => (.ofList s, rest)
  | _ => none

/-- Digits of a base with single underscores between them. -/
def readDigits (isDigit : Char → Bool) : List Char → List Char × List Char
  | [] => ([], [])
  | '_' :: d :: rest =>
    if isDigit d then let (ds, rest) := readDigits isDigit rest; (d :: ds, rest)
    else ([], '_' :: d :: rest)
  | d :: rest =>
    if isDigit d then let (ds, rest) := readDigits isDigit rest; (d :: ds, rest)
    else ([], d :: rest)

/-- At least one digit, the first of which is no underscore. -/
def readNumerals? (isDigit : Char → Bool) (s : List Char) : Reading (List Char) :=
  if s.head?.any isDigit then some (readDigits isDigit s) else none

def valueOf (base : Nat) (digits : List Char) : Nat :=
  digits.foldl (fun n d => n * base + (Url.Percent.hexValue? d).getD 0) 0

def readSign : List Char → Bool × List Char
  | '-' :: rest => (true, rest)
  | '+' :: rest => (false, rest)
  | s => (false, s)

/-- Decimal digits of which no zero leads another. -/
def readWhole? (s : List Char) : Reading (List Char) :=
  match s with
  | '0' :: rest => some (['0'], rest)
  | s => readNumerals? Char.isDigit s

/-- An integer of 64 bits. -/
def inRange (n : Int) : Bool := -9223372036854775808 ≤ n && n ≤ 9223372036854775807

def readInteger? (s : List Char) : Reading Toml :=
  let ofBase (base : Nat) (isDigit : Char → Bool) (rest : List Char) : Reading Toml :=
    match readNumerals? isDigit rest with
    | none => none
    | some (digits, rest) =>
      let n : Int := valueOf base digits
      if inRange n then some (.integer n, rest) else none
  match s with
  | '0' :: 'x' :: rest => ofBase 16 (fun c => (Url.Percent.hexValue? c).isSome) rest
  | '0' :: 'o' :: rest => ofBase 8 (fun c => '0' ≤ c ∧ c ≤ '7') rest
  | '0' :: 'b' :: rest => ofBase 2 (fun c => c == '0' || c == '1') rest
  | s =>
    let (negative, rest) := readSign s
    match readWhole? rest with
    | none => none
    | some (digits, rest) =>
      let n : Int := valueOf 10 digits
      let n := if negative then -n else n
      if inRange n then some (.integer n, rest) else none

/-- The fraction of a number, if one stands at the head. -/
def readFraction? : List Char → Reading (List Char)
  | '.' :: rest => readNumerals? Char.isDigit rest
  | _ => none

def readExponent? : List Char → Reading Int
  | 'e' :: rest | 'E' :: rest =>
    let (negative, rest) := readSign rest
    (readNumerals? Char.isDigit rest).map fun (digits, rest) =>
      let n : Int := valueOf 10 digits
      (if negative then -n else n, rest)
  | _ => none

def spelling (s rest : List Char) : String := .ofList (s.take (s.length - rest.length))

/-- A number with a fraction or an exponent, or one of the two special ones. -/
def readFloat? (s : List Char) : Reading Toml :=
  let (negative, rest) := readSign s
  match (afterWord? "inf" rest).or (afterWord? "nan" rest) with
  | some rest => some (.float (spelling s rest), rest)
  | none =>
    match readWhole? rest with
    | none => none
    | some (whole, rest) =>
      let made (fraction : List Char) (exponent : Int) (rest : List Char) : Reading Toml :=
        let d : Decimal :=
          ⟨negative, valueOf 10 (whole ++ fraction), exponent - fraction.length⟩
        if negative || d.isFinite then some (.float (spelling s rest), rest) else none
      match readFraction? rest with
      | some (fraction, rest) =>
        match readExponent? rest with
        | some (exponent, rest) => made fraction exponent rest
        | none => made fraction 0 rest
      | none =>
        match readExponent? rest with
        | some (exponent, rest) => made [] exponent rest
        | none => none

/-- A number of exactly so many digits. -/
def readFixed? (size : Nat) (s : List Char) : Reading Nat :=
  if (s.take size).length = size && (s.take size).all Char.isDigit then
    some (valueOf 10 (s.take size), s.drop size)
  else none

/-- A number of two digits within bounds, behind a mark. -/
def readPart? (mark : Char) (low high : Nat) : List Char → Reading Nat
  | c :: rest =>
    if c = mark then (readFixed? 2 rest).filter fun (n, _) => low ≤ n && n ≤ high else none
  | [] => none

def isLeapYear (year : Nat) : Bool := year % 4 = 0 && (year % 100 ≠ 0 || year % 400 = 0)

def daysIn (year month : Nat) : Nat :=
  if month = 2 then if isLeapYear year then 29 else 28
  else if [4, 6, 9, 11].contains month then 30
  else 31

/-- What follows a calendar date at the head of the input. -/
def afterDay? (s : List Char) : Option (List Char) :=
  match readFixed? 4 s with
  | none => none
  | some (year, rest) =>
    match readPart? '-' 1 12 rest with
    | none => none
    | some (month, rest) => (readPart? '-' 1 (daysIn year month) rest).map (·.2)

/-- What follows a time of day, which may have a fraction of a second. -/
def afterTime? (s : List Char) : Option (List Char) :=
  match (readFixed? 2 s).filter (·.1 ≤ 23) with
  | none => none
  | some (_, rest) =>
    match readPart? ':' 0 59 rest with
    | none => none
    | some (_, rest) =>
      match readPart? ':' 0 60 rest with
      | none => none
      | some (_, '.' :: d :: rest) =>
        if d.isDigit then some (rest.dropWhile Char.isDigit) else some ('.' :: d :: rest)
      | some (_, rest) => some rest

/-- What follows the distance from universal time, if one is given. -/
def afterOffset : List Char → List Char
  | 'Z' :: rest | 'z' :: rest => rest
  | sign :: rest =>
    if sign = '+' || sign = '-' then
      let hours := (readFixed? 2 rest).filter (·.1 ≤ 23)
      match hours.bind fun (_, rest) => readPart? ':' 0 59 rest with
      | some (_, rest) => rest
      | none => sign :: rest
    else sign :: rest
  | [] => []

/-- A date, a time, or both. -/
def readDate? (s : List Char) : Reading Toml :=
  let after := match afterDay? s with
    | none => afterTime? s
    | some (mark :: rest) =>
      if mark = 'T' || mark = 't' || mark = ' ' then
        match afterTime? rest with
        | some rest => some (afterOffset rest)
        | none => some (mark :: rest)
      else some (mark :: rest)
    | some [] => some []
  after.map fun rest => (.date (spelling s rest), rest)

/-- A value that holds no others. -/
def readScalar? (s : List Char) : Reading Toml :=
  match s with
  | [] => none
  | c :: _ =>
    if c = '"' || c = '\'' then (readString? s).map fun (text, rest) => (.string text, rest)
    else if c = 't' then (afterWord? "true" s).map (.boolean true, ·)
    else if c = 'f' then (afterWord? "false" s).map (.boolean false, ·)
    else ((readDate? s).or (readFloat? s)).or (readInteger? s)

end Crawlability.Toml
