import Crawlability.Files.Error
import Crawlability.Files.Path

/-!
A tree of directories and files, and the operations of a system on it: making directories, opening a
file in order to add to it, and reading one. An operation that fails may have made directories
before it did; apart from that it leaves everything as it was.
-/
namespace Crawlability.Files

/-- The root is a directory that need not be listed. -/
structure Tree where
  directories : List Place := []
  files : List (Place × List UInt8) := []
deriving Repr, DecidableEq

namespace Tree

def isDirectory (t : Tree) (place : Place) : Bool := place.isEmpty || t.directories.contains place

/-- The content of the file at a place. -/
def content? (t : Tree) (place : Place) : Option (List UInt8) := t.files.lookup place

def isFile (t : Tree) (place : Place) : Bool := (t.content? place).isSome

/-- The file with octets at its end, if it is the one at the place. -/
def extend (place : Place) (octets : List UInt8) (file : Place × List UInt8) : Place × List UInt8 :=
  if file.1 = place then (place, file.2 ++ octets) else file

/-- Adds octets to the end of a file, which is made if there is none. -/
def append (t : Tree) (place : Place) (octets : List UInt8) : Tree :=
  if t.isFile place then { t with files := t.files.map (extend place octets) }
  else { t with files := t.files ++ [(place, octets)] }

@[simp] theorem isDirectory_append (t : Tree) (place other : Place) (octets : List UInt8) :
    (t.append place octets).isDirectory other = t.isDirectory other := by
  unfold append
  split <;> rfl

theorem lookup_extend (place other : Place) (octets : List UInt8)
    (files : List (Place × List UInt8)) :
    (files.map (extend place octets)).lookup other =
      if other = place then (files.lookup other).map (· ++ octets) else files.lookup other := by
  induction files with
  | nil => simp
  | cons file rest ih =>
    obtain ⟨name, content⟩ := file
    rw [List.map_cons, extend]
    split <;> rw [List.lookup_cons, List.lookup_cons, ih]
    next hname =>
      subst hname
      cases hother : other == name <;> simp_all
    next hname =>
      cases hother : other == name <;> simp_all

/-- The octets are at the end of their file, and no other file has changed. -/
theorem content?_append (t : Tree) (place other : Place) (octets : List UInt8) :
    (t.append place octets).content? other =
      if other = place then some ((t.content? place).getD [] ++ octets) else t.content? other := by
  unfold append
  split
  next h =>
    obtain ⟨content, hcontent⟩ := Option.isSome_iff_exists.1 h
    rw [content?, lookup_extend]
    split
    next hother => simp_all [content?]
    next => rfl
  next h =>
    have hnone : t.content? place = none := Option.not_isSome_iff_eq_none.1 h
    have hcons : (t.files ++ [(place, octets)]).lookup other =
        (t.content? other).or (if other = place then some octets else none) := by
      rw [List.lookup_append, List.lookup_cons]
      cases hother : other == place <;> simp_all [content?]
    rw [content?, hcons]
    split
    next hother => rw [hother, hnone]; rfl
    next => simp

/-- One step of a walk, into a directory. -/
def enter (t : Tree) (place : Place) (step : String) : Except Error Place :=
  if step = "." then .ok place
  else if step = ".." then .ok place.dropLast
  else if isTooLong step then .error .nameTooLong
  else if t.isDirectory (place ++ [step]) then .ok (place ++ [step])
  else if t.isFile (place ++ [step]) then .error .notADirectory
  else .error .notFound

/-- The directory that a walk leads to. -/
def walk (t : Tree) (start : Place) : List String → Except Error Place
  | [] => .ok start
  | step :: rest =>
    match t.enter start step with
    | .error e => .error e
    | .ok place => t.walk place rest

/-- Makes one directory in one that is there. -/
def makeDirectory (t : Tree) (start : Place) (steps : List String) : Except Error Tree :=
  if steps.any holdsNul then .error .nulInPath
  else match steps.getLast? with
    | none => .error .alreadyExists
    | some name =>
      match t.walk start steps.dropLast with
      | .error e => .error e
      | .ok place =>
        if name = "." ∨ name = ".." then .error .alreadyExists
        else if isTooLong name then .error .nameTooLong
        else if t.isDirectory (place ++ [name]) || t.isFile (place ++ [name]) then
          .error .alreadyExists
        else .ok { t with directories := t.directories ++ [place ++ [name]] }

/-- The outcome of making a directory, which is also fine if it has been there before. -/
def orPresent (t : Tree) (start : Place) (steps : List String) (made : Except Error Tree) :
    Tree × Except Error Unit :=
  match made with
  | .ok t => (t, .ok ())
  | .error e =>
    match t.walk start steps with
    | .ok _ => (t, .ok ())
    | .error _ => (t, .error e)

/-- Makes a directory and, where they are missing, those above it. The steps are given from the last
to the first. -/
def makeUpwards (t : Tree) (start : Place) : List String → Tree × Except Error Unit
  | [] => (t, .ok ())
  | name :: above =>
    let steps := (name :: above).reverse
    match t.makeDirectory start steps with
    | .error .notFound =>
      match t.makeUpwards start above with
      | (t, .error e) => (t, .error e)
      | (t, .ok ()) => t.orPresent start steps (t.makeDirectory start steps)
    | made => t.orPresent start steps made

/-- Makes the directory at a path and, where they are missing, those above it. A path that ends in a
dot names a directory that has to be there. -/
def makeDirectories (t : Tree) (here : Place) (p : Path) : Tree × Except Error Unit :=
  let start := p.start here
  match t.makeDirectory start p.steps with
  | .error .notFound =>
    match t.makeUpwards start p.parentSteps.reverse with
    | (t, .error e) => (t, .error e)
    | (t, .ok ()) => t.orPresent start p.steps (t.makeDirectory start p.steps)
  | made => t.orPresent start p.steps made

/-- The place of a file that can be added to; it may be missing in a directory that is there. -/
def locate (t : Tree) (start : Place) (p : Path) : Except Error Place :=
  if p.steps.any holdsNul then .error .nulInPath
  else match p.steps.getLast? with
    | none => if p.isAbsolute then .error .isADirectory else .error .notFound
    | some name =>
      match t.walk start p.steps.dropLast with
      | .error e => .error e
      | .ok place =>
        if p.endsInSlash || name == "." || name == ".." then .error .isADirectory
        else if isTooLong name then .error .nameTooLong
        else if t.isDirectory (place ++ [name]) then .error .isADirectory
        else .ok (place ++ [name])

/-- Opens a file in order to add to it, in a directory that is made if needed, and says where it
is. -/
def openToAppend (t : Tree) (here : Place) (p : Path) : Tree × Except Error Place :=
  let start := p.start here
  match t.makeUpwards start p.parentSteps.reverse with
  | (t, .error e) => (t, .error e)
  | (t, .ok ()) =>
    match t.locate start p with
    | .error e => (t, .error e)
    | .ok place => (t.append place [], .ok place)

def read (t : Tree) (here : Place) (p : Path) : Except Error (List UInt8) :=
  if p.steps.any holdsNul then .error .nulInPath
  else match p.steps.getLast? with
    | none => if p.isAbsolute then .error .isADirectory else .error .notFound
    | some name =>
      match t.walk (p.start here) p.steps.dropLast with
      | .error e => .error e
      | .ok place =>
        match t.enter place name with
        | .ok _ => .error .isADirectory
        | .error .notADirectory =>
          if p.endsInSlash then .error .notADirectory
          else match t.content? (place ++ [name]) with
            | some octets => .ok octets
            | none => .error .notFound
        | .error e => .error e

end Tree

end Crawlability.Files
