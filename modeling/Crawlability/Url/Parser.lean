import Crawlability.Url.Basic

/-!
Reading absolute addresses. Controls and blanks at both ends are cut off, and tabs and line ends are
taken out wherever they stand. The parts are then cut from left to right: scheme, user, host, port,
path, query and fragment. Dots are resolved while the path is read, and a pair of dots never removes
a drive letter.
-/
namespace Crawlability.Url

/-- Characters that are cut off at both ends. -/
def isOuter (c : Char) : Bool := c.toNat ≤ 0x20

/-- Characters that are taken out everywhere. -/
def isIgnored (c : Char) : Bool := c == '\t' || c == '\n' || c == '\r'

def clean (s : List Char) : List Char :=
  (((s.dropWhile isOuter).reverse.dropWhile isOuter).reverse).filter (!isIgnored ·)

def isSchemeChar (c : Char) : Bool := c.isAlphanum || c == '+' || c == '-' || c == '.'

/-- The scheme in lowercase and what follows its colon. -/
def splitScheme? (s : List Char) : Option (String × List Char) :=
  match s.dropWhile isSchemeChar with
  | ':' :: rest =>
    if s.head?.any Char.isAlpha then
      some (.ofList ((s.takeWhile isSchemeChar).map Char.toLower), rest)
    else none
  | _ => none

/-- Characters that end an authority. -/
def SchemeKind.endsAuthority (kind : SchemeKind) (c : Char) : Bool :=
  kind.isSlash c || c == '?' || c == '#'

/-- The user name and password that stand before the last `@` of an authority. -/
def userInfo (s : List Char) : String × String :=
  let encoded (part : List Char) : String := .ofList (Percent.encode Percent.inUserInfo part)
  (encoded (s.takeWhile (· != ':')), encoded ((s.dropWhile (· != ':')).drop 1))

/-- What stands before the last `@`, if there is one, and what stands behind it. -/
def splitUser (s : List Char) : Option (List Char) × List Char :=
  let host := (s.reverse.takeWhile (· != '@')).reverse
  if host.length = s.length then (none, s) else (some (s.take (s.length - host.length - 1)), host)

/-- Cuts at the first colon outside square brackets. -/
def splitPort : (inBrackets : Bool) → List Char → List Char × Option (List Char)
  | _, [] => ([], none)
  | inBrackets, c :: rest =>
    if c = ':' && !inBrackets then ([], some rest)
    else
      let inBrackets := if c = '[' then true else if c = ']' then false else inBrackets
      let (host, port?) := splitPort inBrackets rest
      (c :: host, port?)

/-- A port below 65536, and what stands behind it. A port that is empty or the default of the scheme
is no port; only a backslash may follow it. -/
def parsePort (scheme : String) (s : List Char) : Except ParseError (Option Nat × List Char) :=
  let digits := s.takeWhile Char.isDigit
  let rest := s.dropWhile Char.isDigit
  let port := digits.foldl (fun n c => n * 10 + (c.toNat - 0x30)) 0
  if 65535 < port || !(rest.isEmpty || rest.head? == some '\\') then .error .invalidPort
  else if digits.isEmpty || defaultPort? scheme == some port then .ok (none, rest)
  else .ok (some port, rest)

/-- The host, and what stands behind the colon that may follow it. -/
def parseHost (kind : SchemeKind) (s : List Char) :
    Except ParseError (Option Host × Option (List Char)) :=
  let (host, port?) := splitPort false s
  if host.isEmpty then
    if kind = .web || port?.isSome then .error .emptyHost else .ok (none, none)
  else match if kind = .other then Host.parseOpaque host else Host.parse host with
    | .error e => .error e
    | .ok host => .ok (some host, port?)

/-- The authority of an address that is no file, given without its slashes, and what is left of the
text behind the port. -/
def parseAuthority (scheme : String) (kind : SchemeKind) (s : List Char) :
    Except ParseError (Authority × List Char) :=
  let (user?, rest) := splitUser s
  let (username, password) := userInfo (user?.getD [])
  match parseHost kind rest with
  | .error e => .error e
  | .ok (host?, port?) =>
    if host?.isNone && !(username.isEmpty && password.isEmpty) then .error .emptyHost
    else match port? with
      | none => .ok ({ username, password, host? }, [])
      | some digits =>
        match parsePort scheme digits with
        | .error e => .error e
        | .ok (port?, rest) => .ok ({ username, password, host?, port? }, rest)

/-- A segment that stands for the place it is in. -/
def isSingleDot (s : List Char) : Bool :=
  let s := s.map Char.toLower
  s == ['.'] || s == "%2e".toList

/-- A segment that stands for the place above. -/
def isDoubleDot (s : List Char) : Bool :=
  ["..", ".%2e", "%2e.", "%2e%2e"].any (·.toList == s.map Char.toLower)

/-- A letter with a colon or a bar, as a disk is called. -/
def isDriveLetter : List Char → Bool
  | [letter, mark] => letter.isAlpha && (mark == ':' || mark == '|')
  | _ => false

/-- The segments without the last one, unless that is a drive letter. -/
def dropSegment (segments : List String) : List String :=
  match segments.getLast? with
  | none => []
  | some last => if isDriveLetter last.toList then segments else segments.dropLast

/-- Adds segments to those before; dots are resolved, and one at the end leaves an empty segment. -/
def resolve (before : List String) : List (List Char) → List String
  | [] => before
  | segment :: rest =>
    let closed (before : List String) := if rest.isEmpty then before ++ [""] else before
    if isDoubleDot segment then resolve (closed (dropSegment before)) rest
    else if isSingleDot segment then resolve (closed before) rest
    else resolve (before ++ [.ofList (Percent.encode Percent.inPath segment)]) rest

/-- The segments of a path that has lost its first slash. -/
def segmentsOf (kind : SchemeKind) (s : List Char) : List String :=
  resolve [] (s.splitOnP kind.isSlash)

/-- The path behind an authority. -/
def parsePath (kind : SchemeKind) : List Char → List String
  | [] => if kind = .other then [] else [""]
  | c :: rest => segmentsOf kind (if kind.isSlash c then rest else c :: rest)

/-- The query and the fragment; the text is empty or begins with the mark of one of them. -/
def parseTail (kind : SchemeKind) (s : List Char) : Option String × Option String :=
  let query := s.takeWhile (· != '#')
  let queryText (rest : List Char) : String :=
    let encodes := if kind = .other then Percent.inQuery else Percent.inSpecialQuery
    .ofList (Percent.encode encodes rest)
  let fragmentText (rest : List Char) : String := .ofList (Percent.encode Percent.inFragment rest)
  (query.tail?.map queryText, (s.dropWhile (· != '#')).tail?.map fragmentText)

def startsTail (c : Char) : Bool := c == '?' || c == '#'

/-- An address with an authority, given without the slashes before it. An empty user in front of an
empty host is refused only if more of the address follows. -/
def parseHierarchical (scheme : String) (kind : SchemeKind) (s : List Char) :
    Except ParseError Url :=
  let authority := s.takeWhile (!kind.endsAuthority ·)
  let rest := s.dropWhile (!kind.endsAuthority ·)
  if authority = ['@'] ∧ !rest.isEmpty then .error .emptyHost
  else match parseAuthority scheme kind authority with
    | .error e => .error e
    | .ok (authority, left) =>
      let rest := left ++ rest
      let path := parsePath kind (rest.takeWhile (!startsTail ·))
      let (query?, fragment?) := parseTail kind (rest.dropWhile (!startsTail ·))
      .ok { scheme, authority? := some authority, path := .segments path, query?, fragment? }

/-- An address without an authority. -/
def parseBare (scheme : String) (s : List Char) : Url :=
  let path := s.takeWhile (!startsTail ·)
  let (query?, fragment?) := parseTail .other (s.dropWhile (!startsTail ·))
  let path := match path with
    | '/' :: rest => Path.segments (segmentsOf .other rest)
    | _ => .opaqueText (.ofList (Percent.encode Percent.isControl path))
  { scheme, authority? := none, path, query?, fragment? }

/-- The path of a file: no empty segments lead it, and a drive letter in front takes a colon. -/
def filePath (segments : List String) : List String :=
  match segments.dropWhile (·.isEmpty) with
  | [] => [""]
  | first :: rest =>
    if isDriveLetter first.toList then .ofList (first.toList.take 1 ++ [':']) :: rest
    else first :: rest

/-- The host that may stand behind the two slashes of a file, and the rest. This machine needs no
name, and a drive letter is no host. -/
def parseFileHost (s : List Char) : Except ParseError (Option Host × List Char) :=
  let ends := SchemeKind.endsAuthority .file
  let host := s.takeWhile (!ends ·)
  if host.isEmpty then .ok (none, s)
  else if isDriveLetter host then .ok (none, s)
  else match Host.parse host with
    | .error e => .error e
    | .ok host =>
      .ok (if host = .name "localhost" then none else some host, s.dropWhile (!ends ·))

/-- The address of a file, given behind its scheme. -/
def parseFile (s : List Char) : Except ParseError Url :=
  let slash := SchemeKind.isSlash .file
  let located := match s with
    | a :: b :: rest => if slash a && slash b then parseFileHost rest else .ok (none, s)
    | _ => .ok (none, s)
  match located with
  | .error e => .error e
  | .ok (host?, rest) =>
    let segments := parsePath .file (rest.takeWhile (!startsTail ·))
    let (query?, fragment?) := parseTail .file (rest.dropWhile (!startsTail ·))
    let hasDrive := segments.head?.any fun first => isDriveLetter first.toList
    let authority : Authority := { host? := if hasDrive then none else host? }
    .ok { scheme := "file", authority? := some authority, path := .segments (filePath segments),
          query?, fragment? }

/-- The address that a text spells. -/
def parse (text : String) : Except ParseError Url :=
  match splitScheme? (clean text.toList) with
  | none => .error .relativeWithoutBase
  | some (scheme, rest) =>
    let kind := SchemeKind.ofScheme scheme
    match kind, rest with
    | .file, rest => parseFile rest
    | .web, rest => parseHierarchical scheme kind (rest.dropWhile kind.isSlash)
    | .other, '/' :: '/' :: rest => parseHierarchical scheme kind rest
    | .other, rest => .ok (parseBare scheme rest)

end Crawlability.Url
