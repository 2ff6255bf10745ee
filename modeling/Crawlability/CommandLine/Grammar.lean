/-!
Arguments in general. Switches have long names and some have a letter; some of them take a value,
which is the next argument or stands behind an equals sign. All other arguments are positional, and
behind two dashes every argument is.

Arguments are read from the left, and reading stops at the first that is out of order or that asks
for help or for the version.
-/
namespace Crawlability.CommandLine

/-- What a switch takes. -/
inductive Takes where
  | nothing
  /-- Nothing, but the switch may be repeated. -/
  | tally
  | text
  /-- A text that is not empty. -/
  | path
deriving Repr, DecidableEq

structure Switch where
  name : String
  letter? : Option Char := none
  takes : Takes
deriving Repr, DecidableEq

/-- Which arguments are in order. -/
structure Grammar where
  switches : List Switch
  /-- How many positional arguments there may be, if they are bounded. -/
  maxPositional? : Option Nat
  /-- The first positional argument is a command, and what follows it is not read. -/
  endsAtCommand : Bool := false
  hasVersion : Bool := false

/-- Why reading stops. -/
inductive Stop where
  | usage
  | help
  | version
deriving Repr, DecidableEq

/-- What was read. -/
inductive Item where
  | switch (name : String)
  | value (name text : String)
  | positional (text : String)
deriving Repr, DecidableEq

/-- What an argument looks like. -/
inductive Look where
  | dashes
  | long (name : String) (value? : Option String)
  | letters (list : List Char)
  | plain
deriving Repr, DecidableEq

def Look.of (arg : String) : Look :=
  match arg.toList with
  | ['-', '-'] => dashes
  | '-' :: '-' :: rest =>
    long (.ofList (rest.takeWhile (· != '=')))
      (match rest.dropWhile (· != '=') with
        | [] => none
        | _ :: value => some (.ofList value))
  | '-' :: c :: rest => letters (c :: rest)
  | _ => plain

/-- Items read so far, the last one first. -/
abbrev Items := List Item

namespace Items

def names (items : Items) : List String :=
  items.filterMap fun item => match item with
    | .switch name | .value name _ => some name
    | .positional _ => none

def positionals (items : Items) : List String :=
  items.filterMap fun item => match item with
    | .positional text => some text
    | _ => none

def has (items : Items) (name : String) : Bool := items.names.contains name

def value? (items : Items) (name : String) : Option String :=
  items.findSome? fun item => match item with
    | .value other text => if other = name then some text else none
    | _ => none

def count (items : Items) (name : String) : Nat := items.names.count name

end Items

namespace Grammar

/-- Adds a switch without a value. -/
def addSwitch (items : Items) (s : Switch) : Except Stop Items :=
  match s.takes with
  | .tally => .ok (.switch s.name :: items)
  | .nothing => if items.has s.name then .error .usage else .ok (.switch s.name :: items)
  | _ => .error .usage

/-- Adds a switch with its value. -/
def addValue (items : Items) (s : Switch) (value : String) : Except Stop Items :=
  if items.has s.name || (s.takes = .path && value.isEmpty) then .error .usage
  else .ok (.value s.name value :: items)

def addPositional (g : Grammar) (items : Items) (text : String) : Except Stop Items :=
  if g.maxPositional?.any (· ≤ items.positionals.length) then .error .usage
  else .ok (.positional text :: items)

def addPositionals (g : Grammar) (items : Items) : List String → Except Stop Items
  | [] => .ok items
  | text :: rest =>
    match g.addPositional items text with
    | .error stop => .error stop
    | .ok items => g.addPositionals items rest

/-- Reads letters behind one dash; each is a switch of its own. -/
def readLetters (g : Grammar) (items : Items) : List Char → Except Stop Items
  | [] => .ok items
  | c :: rest =>
    if c = 'h' then .error .help
    else if g.hasVersion && c == 'V' then .error .version
    else match g.switches.find? (·.letter? == some c) with
      | none => .error .usage
      | some s =>
        match addSwitch items s with
        | .error stop => .error stop
        | .ok items => g.readLetters items rest

/-- An argument that can be the value of the switch before it. -/
def canBeValue (arg : String) : Bool := Look.of arg == .plain

/-- Reads arguments behind the items that were read before; returns the items and the command with
what follows it. -/
def readFrom (g : Grammar) (items : Items) : List String → Except Stop (Items × List String)
  | [] => .ok (items, [])
  | arg :: rest =>
    match Look.of arg with
    | .plain =>
      if g.endsAtCommand then .ok (items, arg :: rest)
      else match g.addPositional items arg with
        | .error stop => .error stop
        | .ok items => g.readFrom items rest
    | .dashes => (g.addPositionals items rest).map (·, [])
    | .letters list =>
      match g.readLetters items list with
      | .error stop => .error stop
      | .ok items => g.readFrom items rest
    | .long name value? =>
      if name = "help" ∧ value? = none then .error .help
      else if g.hasVersion ∧ name = "version" ∧ value? = none then .error .version
      else match g.switches.find? (·.name == name), value?, rest with
        | none, _, _ => .error .usage
        | some s, some value, rest =>
          if s.takes = .text ∨ s.takes = .path then
            match addValue items s value with
            | .error stop => .error stop
            | .ok items => g.readFrom items rest
          else .error .usage
        | some s, none, [] =>
          match addSwitch items s with
          | .error stop => .error stop
          | .ok items => .ok (items, [])
        | some s, none, next :: rest =>
          if s.takes = .text ∨ s.takes = .path then
            if canBeValue next then
              match addValue items s next with
              | .error stop => .error stop
              | .ok items => g.readFrom items rest
            else .error .usage
          else match addSwitch items s with
            | .error stop => .error stop
            | .ok items => g.readFrom items (next :: rest)

/-- The items of arguments in their order, and the command with what follows it. -/
def read (g : Grammar) (args : List String) : Except Stop (Items × List String) :=
  (g.readFrom [] args).map fun (items, rest) => (items.reverse, rest)

end Grammar

end Crawlability.CommandLine
