import Crawlability.Json.Basic

/-!
What tools take, as data. A table of parameters gives both the schema that callers are shown and the
check of what they send. The check is wider than the schema in two ways: null is as good as nothing,
and a single text may stand for a list of one.
-/
namespace Crawlability.Tool

inductive ParamKind where
  | text
  | boolean
  | texts
deriving Repr, DecidableEq

structure Param where
  name : String
  kind : ParamKind
  isRequired : Bool
  description : String
deriving Repr, DecidableEq

structure Spec where
  name : String
  description : String
  params : List Param
deriving Repr, DecidableEq

namespace ParamKind

/-- The members of the schema of such a parameter. -/
def schema : ParamKind → List (String × Json)
  | text => [("type", .string "string")]
  | boolean => [("type", .string "boolean")]
  | texts => [("items", .object [("type", .string "string")]), ("type", .string "array")]

def accepts : ParamKind → Json → Bool
  | text, .string _ => true
  | boolean, .bool _ => true
  | texts, .string _ => true
  | texts, .array items => items.all fun item => item.string?.isSome
  | _, _ => false

def describe : ParamKind → String
  | text => "a string"
  | boolean => "a boolean"
  | texts => "an array of strings"

end ParamKind

/-- Puts a member into an object whose members are in the order of their names. -/
def insertMember (name : String) (value : Json) : List (String × Json) → List (String × Json)
  | [] => [(name, value)]
  | member :: rest =>
    if name < member.1 then (name, value) :: member :: rest
    else if name = member.1 then (name, value) :: rest
    else member :: insertMember name value rest

namespace Param

def schema (p : Param) : Json := .object (("description", .string p.description) :: p.kind.schema)

/-- What is wrong with the value of the parameter, if anything is. -/
def fault? (p : Param) : Option Json → Option String
  | none | some .null =>
    if p.isRequired then some ("Missing required argument '" ++ p.name ++ "'") else none
  | some value =>
    if p.kind.accepts value then none
    else some ("Argument '" ++ p.name ++ "' must be " ++ p.kind.describe)

end Param

namespace Spec

/-- The schema of the arguments. Members of objects are in the order of their names. -/
def inputSchema (s : Spec) : Json :=
  let properties := s.params.foldl (fun members p => insertMember p.name p.schema members) []
  .object [("properties", .object properties),
    ("required", .array ((s.params.filter (·.isRequired)).map (.string ·.name))),
    ("type", .string "object")]

def definition (s : Spec) : Json :=
  .object [("name", .string s.name), ("description", .string s.description),
    ("inputSchema", s.inputSchema)]

/-- The members of the arguments, which have to be an object or null. -/
def members? : Json → Option (List (String × Json))
  | .object members => some members
  | .null => some []
  | _ => none

/-- The first fault of the arguments in the order of the parameters, if there is one. What the table
does not name is passed over. -/
def validate (s : Spec) (args : Json) : Except String Unit :=
  match members? args with
  | none => .error ("Arguments for " ++ s.name ++ " must be a JSON object")
  | some members =>
    match s.params.findSome? fun p => p.fault? (Json.lookup? members p.name) with
    | some fault => .error fault
    | none => .ok ()

end Spec

end Crawlability.Tool
