import Crawlability.Files.Tree
import Mathlib

/-!
What the operations on a tree leave alone. Making directories, whether it succeeds or breaks off on
the way, keeps all files and all directories. A walk that leads to a directory still does so when
there are more of them, and so a file that was opened in order to add to it is found again under its
path.
-/
namespace Crawlability.Files

/-- The name can be that of a file or of a directory. -/
structure IsPlainName (name : String) : Prop where
  ne_dot : name ≠ "."
  ne_dots : name ≠ ".."
  fits : isTooLong name = false
  noNul : holdsNul name = false

namespace Tree

/-- Directories may have been made, and that is all. -/
structure Grows (t u : Tree) : Prop where
  files_eq : u.files = t.files
  isDirectory : ∀ place, t.isDirectory place = true → u.isDirectory place = true

theorem Grows.refl (t : Tree) : Grows t t := ⟨rfl, fun _ h => h⟩

theorem Grows.trans (t u v : Tree) (h : Grows t u) (h' : Grows u v) : Grows t v :=
  ⟨h'.files_eq.trans h.files_eq, fun place hp => h'.isDirectory place (h.isDirectory place hp)⟩

theorem Grows.content?_eq (t u : Tree) (h : Grows t u) (place : Place) :
    u.content? place = t.content? place := by
  rw [content?, content?, h.files_eq]

/-- The tree with one more directory. -/
def withDirectory (t : Tree) (place : Place) : Tree :=
  { t with directories := t.directories ++ [place] }

theorem isDirectory_withDirectory_iff (t : Tree) (place other : Place) :
    (t.withDirectory place).isDirectory other = true ↔
      t.isDirectory other = true ∨ other = place := by
  simp [isDirectory, withDirectory, or_assoc]

theorem grows_withDirectory (t : Tree) (place : Place) : Grows t (t.withDirectory place) :=
  ⟨rfl, fun other h => (t.isDirectory_withDirectory_iff place other).mpr (Or.inl h)⟩

theorem enter_of_isPlainName (t : Tree) (place : Place) (name : String) (h : IsPlainName name) :
    t.enter place name =
      if t.isDirectory (place ++ [name]) then .ok (place ++ [name])
      else if t.isFile (place ++ [name]) then .error .notADirectory
      else .error .notFound := by
  simp [enter, h.ne_dot, h.ne_dots, h.fits]

/-! Walks in a tree with more directories. -/

section Walks

variable (t u : Tree) (h : ∀ place, t.isDirectory place = true → u.isDirectory place = true)

include h

theorem enter_mono (start place : Place) (step : String) (hok : t.enter start step = .ok place) :
    u.enter start step = .ok place := by
  revert hok
  fun_cases enter t start step with
  | case1 hdot => exact fun hok => by rwa [enter, if_pos hdot]
  | case2 hdot hup => exact fun hok => by rwa [enter, if_neg hdot, if_pos hup]
  | case4 hdot hup hlong hdirectory =>
    intro hok
    rwa [enter, if_neg hdot, if_neg hup, if_neg hlong, if_pos (h _ hdirectory)]
  | _ =>
    intro hok
    cases hok

theorem walk_mono (start place : Place) (steps : List String)
    (hok : t.walk start steps = .ok place) : u.walk start steps = .ok place := by
  induction steps generalizing start with
  | nil => exact hok
  | cons step rest ih =>
    rw [walk] at hok ⊢
    cases henter : t.enter start step with
    | error e =>
      rw [henter] at hok
      cases hok
    | ok next =>
      rw [henter] at hok
      rw [enter_mono t u h start next step henter]
      exact ih next hok

end Walks

/-! Making directories. -/

theorem exists_of_makeDirectory (t u : Tree) (start : Place) (steps : List String)
    (h : t.makeDirectory start steps = .ok u) : ∃ place, u = t.withDirectory place := by
  revert h
  fun_cases makeDirectory t start steps with
  | case7 hnul name hlast parent hwalk hdots hlong hfree =>
    intro h
    exact ⟨parent ++ [name], (Except.ok.inj h).symm⟩
  | _ =>
    intro h
    cases h

theorem grows_orPresent (t : Tree) (start : Place) (steps : List String) :
    Grows t (t.orPresent start steps (t.makeDirectory start steps)).1 := by
  unfold orPresent
  cases hmade : t.makeDirectory start steps with
  | ok u =>
    obtain ⟨place, rfl⟩ := exists_of_makeDirectory t u start steps hmade
    exact t.grows_withDirectory place
  | error e =>
    cases t.walk start steps with
    | ok place => exact Grows.refl t
    | error _ => exact Grows.refl t

theorem grows_makeUpwards (t : Tree) (start : Place) (steps : List String) :
    Grows t (t.makeUpwards start steps).1 := by
  induction steps with
  | nil => exact Grows.refl t
  | cons name above ih =>
    rw [makeUpwards]
    split
    · split
      · rename_i u e habove
        rwa [habove] at ih
      · rename_i u habove
        rw [habove] at ih
        exact ih.trans t u _ (u.grows_orPresent start _)
    · exact t.grows_orPresent start _

theorem grows_makeDirectories (t : Tree) (here : Place) (p : Path) :
    Grows t (t.makeDirectories here p).1 := by
  have habove := t.grows_makeUpwards (p.start here) p.parentSteps.reverse
  unfold makeDirectories
  simp only
  split
  · split
    · rename_i u e hmade
      rwa [hmade] at habove
    · rename_i u hmade
      rw [hmade] at habove
      exact habove.trans t u _ (u.grows_orPresent _ _)
  · exact t.grows_orPresent _ _

/-! Files and their paths. -/

/-- The path leads from the start to a place of this name, by way of directories that are there. At
the place itself there is none, and the path does not ask for one. -/
structure Leads (t : Tree) (start : Place) (p : Path) (parent : Place) (name : String) : Prop where
  noNul : p.steps.any holdsNul = false
  getLast? : p.steps.getLast? = some name
  walk : t.walk start p.steps.dropLast = .ok parent
  isPlainName : IsPlainName name
  notDirectory : t.isDirectory (parent ++ [name]) = false
  endsInSlash : p.endsInSlash = false

theorem holdsNul_of_getLast? (p : Path) (name : String) (hnul : p.steps.any holdsNul = false)
    (hlast : p.steps.getLast? = some name) : holdsNul name = false := by
  rw [List.any_eq_false] at hnul
  exact Bool.not_eq_true _ ▸ hnul name (List.mem_of_getLast? hlast)

theorem exists_of_locate (t : Tree) (start place : Place) (p : Path)
    (h : t.locate start p = .ok place) :
    ∃ parent name, t.Leads start p parent name ∧ place = parent ++ [name] := by
  revert h
  fun_cases locate t start p with
  | case8 hnul name hlast parent hwalk hplain hlong hdirectory =>
    intro h
    simp only [Bool.or_eq_true, beq_iff_eq, not_or, Bool.not_eq_true] at hnul hplain hlong hdirectory
    obtain ⟨⟨hslash, hdot⟩, hdots⟩ := hplain
    have hname : IsPlainName name := ⟨hdot, hdots, hlong, holdsNul_of_getLast? p name hnul hlast⟩
    exact ⟨parent, name, ⟨hnul, hlast, hwalk, hname, hdirectory, hslash⟩, (Except.ok.inj h).symm⟩
  | _ =>
    intro h
    cases h

section Leads

variable (t : Tree) (start here : Place) (p : Path) (parent : Place) (name : String)

theorem Leads.locate_eq (h : t.Leads start p parent name) :
    t.locate start p = .ok (parent ++ [name]) := by
  simp [locate, h.noNul, h.getLast?, h.walk, h.endsInSlash, h.isPlainName.ne_dot,
    h.isPlainName.ne_dots, h.isPlainName.fits, h.notDirectory]

/-- What is read under a path is the file that it leads to. -/
theorem Leads.read_eq (octets : List UInt8) (h : t.Leads (p.start here) p parent name)
    (hcontent : t.content? (parent ++ [name]) = some octets) : t.read here p = .ok octets := by
  have henter : t.enter parent name = .error .notADirectory := by
    simp [t.enter_of_isPlainName parent name h.isPlainName, h.notDirectory, isFile, hcontent]
  simp [read, h.noNul, h.getLast?, h.walk, henter, h.endsInSlash, hcontent]

/-- More directories do not change where a path leads, if none is made at its end. -/
theorem Leads.mono (u : Tree) (h : t.Leads start p parent name)
    (hgrows : ∀ place, t.isDirectory place = true → u.isDirectory place = true)
    (hfree : u.isDirectory (parent ++ [name]) = false) : u.Leads start p parent name :=
  { h with walk := t.walk_mono u hgrows start parent _ h.walk, notDirectory := hfree }

end Leads

theorem of_enter_eq_notADirectory (t : Tree) (place : Place) (step : String)
    (h : t.enter place step = .error .notADirectory) :
    step ≠ "." ∧ step ≠ ".." ∧ isTooLong step = false ∧
      t.isDirectory (place ++ [step]) = false := by
  revert h
  fun_cases enter t place step with
  | case5 hdot hdots hlong hdirectory hfile =>
    intro _
    exact ⟨hdot, hdots, by simpa using hlong, by simpa using hdirectory⟩
  | _ =>
    intro h
    cases h

theorem exists_of_read (t : Tree) (here : Place) (p : Path) (octets : List UInt8)
    (h : t.read here p = .ok octets) :
    ∃ parent name, t.Leads (p.start here) p parent name ∧
      t.content? (parent ++ [name]) = some octets := by
  revert h
  fun_cases read t here p with
  | case7 hnul name hlast parent hwalk henter hslash found hcontent =>
    intro h
    obtain ⟨hdot, hdots, hlong, hdirectory⟩ := t.of_enter_eq_notADirectory parent name henter
    simp only [Bool.not_eq_true] at hnul hslash
    have hname : IsPlainName name := ⟨hdot, hdots, hlong, holdsNul_of_getLast? p name hnul hlast⟩
    refine ⟨parent, name, ⟨hnul, hlast, hwalk, hname, hdirectory, hslash⟩, ?_⟩
    rw [hcontent, Except.ok.inj h]
  | _ =>
    intro h
    cases h

end Tree

end Crawlability.Files
