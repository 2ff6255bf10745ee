import Crawlability.Proofs.Files.PlainPaths

/-!
Files that are only added to. In a run files are opened and written to and directories are made, in
any order and with any failures. A step that opens a file puts its octets at the end of it; no step
touches any other file, nor what a file held before. So after a run a file holds what it held at
first and then, in order, what was written to it.
-/
namespace Crawlability.Files

/-- Opens the file at a path and writes octets to it, or makes the directory at a path. -/
inductive Step where
  | write (path : Path) (octets : List UInt8)
  | makeDirectories (path : Path)

/-- What a step has to write. -/
def Step.octets : Step → List UInt8
  | write _ octets => octets
  | makeDirectories _ => []

namespace Tree

/-- Does a step. If it succeeds and writes to a file, it tells the place of the file. -/
def perform (here : Place) (t : Tree) : Step → Tree × Except Error (Option Place)
  | .write path octets =>
    match t.openToAppend here path with
    | (t, .error e) => (t, .error e)
    | (t, .ok place) => (t.append place octets, .ok (some place))
  | .makeDirectories path =>
    match t.makeDirectories here path with
    | (t, .error e) => (t, .error e)
    | (t, .ok ()) => (t, .ok none)

/-- Does the steps one after the other, whether they succeed or not. -/
def run (here : Place) (t : Tree) (steps : List Step) : Tree :=
  steps.foldl (fun t step => (t.perform here step).1) t

/-- What the steps write to the file at a place, in order. Only those that could open it count. -/
def writtenTo (here place : Place) (t : Tree) : List Step → List (List UInt8)
  | [] => []
  | step :: rest =>
    let behind := (t.perform here step).1.writtenTo here place rest
    if (t.perform here step).2 = .ok (some place) then step.octets :: behind else behind

theorem map_extend_eq_self (place : Place) (octets : List UInt8) (files : List (Place × List UInt8))
    (h : files.lookup place = none) : files.map (extend place octets) = files := by
  conv_rhs => rw [← List.map_id files]
  apply List.map_congr_left
  intro file hfile
  have hne : file.1 ≠ place := by
    intro heq
    have hkey := List.lookup_eq_none_iff.mp h file hfile
    simp [heq] at hkey
  rw [extend, if_neg hne, id]

/-- Octets that are added one after the other are added at once. -/
theorem append_append (t : Tree) (place : Place) (octets others : List UInt8) :
    (t.append place octets).append place others = t.append place (octets ++ others) := by
  have hthere : (t.append place octets).isFile place = true := by
    rw [isFile, content?_append, if_pos rfl]
    rfl
  rw [append, if_pos hthere, append, append]
  split
  · have hextend : extend place others ∘ extend place octets = extend place (octets ++ others) := by
      funext file
      by_cases h : file.1 = place
      · simp [extend, h]
      · simp [extend, h]
    simp only [List.map_map, hextend]
  · rename_i hfile
    have hnone : t.files.lookup place = none := Option.not_isSome_iff_eq_none.mp hfile
    simp [map_extend_eq_self place others t.files hnone, extend]

/-- What one step can do. -/
inductive Performs (here : Place) (t : Tree) : Step → Tree × Except Error (Option Place) → Prop
  | kept (step : Step) (u : Tree) (outcome : Except Error (Option Place)) (hgrows : t.Grows u)
      (hnone : ∀ place, outcome ≠ .ok (some place)) : Performs here t step (u, outcome)
  | wrote (p : Path) (octets : List UInt8) (u : Tree) (parent : Place) (name : String)
      (hgrows : t.Grows u) (hleads : u.Leads (p.start here) p parent name) :
      Performs here t (.write p octets)
        (u.append (parent ++ [name]) octets, .ok (some (parent ++ [name])))

theorem performs_perform (here : Place) (t : Tree) (step : Step) :
    Performs here t step (t.perform here step) := by
  cases step with
  | write p octets =>
    have habove := t.grows_makeUpwards (p.start here) p.parentSteps.reverse
    rw [perform, openToAppend]
    rcases hmade : t.makeUpwards (p.start here) p.parentSteps.reverse with ⟨u, e | _⟩
    · rw [hmade] at habove
      exact .kept _ u _ habove (by simp)
    · rw [hmade] at habove
      cases hlocate : u.locate (p.start here) p with
      | error e =>
        simp only [hlocate]
        exact .kept _ u _ habove (by simp)
      | ok place =>
        obtain ⟨parent, name, hleads, rfl⟩ := u.exists_of_locate _ place p hlocate
        simp only [hlocate, append_append, List.nil_append]
        exact .wrote p octets u parent name habove hleads
  | makeDirectories p =>
    have hgrows := t.grows_makeDirectories here p
    rw [perform]
    rcases hmade : t.makeDirectories here p with ⟨u, e | _⟩
    · rw [hmade] at hgrows
      exact .kept _ u _ hgrows (by simp)
    · rw [hmade] at hgrows
      exact .kept _ u _ hgrows (by simp)

section Steps

variable (here : Place) (t : Tree) (step : Step)

/-- A step adds what it has to write to the file that it opened, and that is all. -/
theorem content?_perform (place : Place) :
    (t.perform here step).1.content? place =
      if (t.perform here step).2 = .ok (some place) then
        some ((t.content? place).getD [] ++ step.octets)
      else t.content? place := by
  have hperform := performs_perform here t step
  generalize t.perform here step = result at hperform
  cases hperform with
  | kept _ u outcome hgrows hnone => rw [if_neg (hnone place), hgrows.content?_eq]
  | wrote p octets u parent name hgrows hleads =>
    rw [content?_append, hgrows.content?_eq, hgrows.content?_eq]
    by_cases hplace : place = parent ++ [name]
    · subst hplace
      simp [Step.octets]
    · have hother : parent ++ [name] ≠ place := Ne.symm hplace
      simp [hplace, hother]

theorem isDirectory_perform (place : Place) (h : t.isDirectory place = true) :
    (t.perform here step).1.isDirectory place = true := by
  have hperform := performs_perform here t step
  generalize t.perform here step = result at hperform
  cases hperform with
  | kept _ u outcome hgrows hnone => exact hgrows.isDirectory place h
  | wrote p octets u parent name hgrows hleads =>
    rw [isDirectory_append]
    exact hgrows.isDirectory place h

/-- What was written is read under the path, behind what was read there before. -/
theorem read_perform_write (p : Path) (octets : List UInt8) (place : Place)
    (h : (t.perform here (.write p octets)).2 = .ok (some place)) :
    (t.perform here (.write p octets)).1.read here p =
        .ok ((t.content? place).getD [] ++ octets) ∧
      ∀ old, t.read here p = .ok old → t.content? place = some old := by
  have hcontent := content?_perform here t (.write p octets) place
  rw [if_pos h] at hcontent
  have hperform := performs_perform here t (.write p octets)
  generalize t.perform here (.write p octets) = result at h hcontent hperform
  cases hperform with
  | kept _ u outcome hgrows hnone => exact absurd h (hnone place)
  | wrote _ _ u parent name hgrows hleads =>
    obtain rfl : parent ++ [name] = place := Option.some.inj (Except.ok.inj h)
    constructor
    · have hsame : ∀ other, (u.append (parent ++ [name]) octets).isDirectory other =
          u.isDirectory other := fun other => u.isDirectory_append _ other octets
      have hleads' := hleads.mono u (p.start here) p parent name
        (u.append (parent ++ [name]) octets) (fun other hother => (hsame other).trans hother)
        ((hsame _).trans hleads.notDirectory)
      exact hleads'.read_eq _ here p parent name _ hcontent
    · intro old hold
      obtain ⟨before, last, hbefore, hold⟩ := t.exists_of_read here p old hold
      obtain rfl : last = name :=
        Option.some.inj (hbefore.getLast?.symm.trans hleads.getLast?)
      have hwalk := t.walk_mono u hgrows.isDirectory (p.start here) before _ hbefore.walk
      obtain rfl : before = parent := Except.ok.inj (hwalk.symm.trans hleads.walk)
      exact hold

/-- On a free way the directories that were missing are there after the step, and no others. -/
theorem perform_write_of_freeWay (p : Path) (octets : List UInt8) (names : List String)
    (name : String) (h : t.HasFreeWay (p.start here) p names name) :
    (∀ place, (t.perform here (.write p octets)).1.isDirectory place = true ↔
      t.isDirectory place = true ∨ IsOnWay (p.start here) names place) ∧
    ((t.perform here (.write p octets)).2 = .ok (some (p.start here ++ (names ++ [name]))) ↔
      p.endsInSlash = false ∧ t.isDirectory (p.start here ++ (names ++ [name])) = false) := by
  obtain ⟨u, hmade, hopen⟩ := h.exists_openToAppend t here p names name
  have hlocate := h.locate_eq_ok_iff t u here p names name hmade
  rw [perform, hopen]
  cases hplace : u.locate (p.start here) p with
  | error e =>
    refine ⟨hmade.isDirectory_iff, ?_⟩
    constructor
    · intro hok
      cases hok
    · intro hfree
      rw [(hlocate _).mpr ⟨rfl, hfree⟩] at hplace
      cases hplace
  | ok place =>
    obtain ⟨rfl, hfree⟩ := (hlocate place).mp hplace
    refine ⟨?_, iff_of_true rfl hfree⟩
    intro other
    simp only [isDirectory_append]
    exact hmade.isDirectory_iff other

end Steps

/-- After a run a file holds what it held at first and then what was written to it. -/
theorem content?_run (here place : Place) (t : Tree) (steps : List Step) :
    (t.run here steps).content? place =
      if t.writtenTo here place steps = [] then t.content? place
      else some ((t.content? place).getD [] ++ (t.writtenTo here place steps).flatten) := by
  induction steps generalizing t with
  | nil => rfl
  | cons step rest ih =>
    have hstep := content?_perform here t step place
    have hrest := ih (t.perform here step).1
    rw [run, List.foldl_cons]
    rw [run] at hrest
    rw [hrest, writtenTo]
    by_cases hwrote : (t.perform here step).2 = .ok (some place)
    · rw [if_pos hwrote] at hstep
      rw [hstep, if_pos hwrote, if_neg (List.cons_ne_nil _ _)]
      split
      · rename_i hnone
        simp [hnone]
      · simp
    · rw [if_neg hwrote] at hstep
      rw [hstep, if_neg hwrote]

/-- A run only adds to files, at each of its steps and as a whole. After any steps a file holds what
it held at first and then what was written to it; the next step, whatever comes of it, adds what it
has to write to the file that it opened, and keeps all other files and all directories. What it
wrote is read under its path, behind what was read there before, and the directories on the way have
been made where they were missing. -/
theorem run_appends (here : Place) (t : Tree) (steps : List Step) (step : Step) :
    let now := t.run here steps
    let next := (now.perform here step).1
    let outcome := (now.perform here step).2
    (∀ place, now.content? place =
      if t.writtenTo here place steps = [] then t.content? place
      else some ((t.content? place).getD [] ++ (t.writtenTo here place steps).flatten)) ∧
    (∀ place, next.content? place =
      if outcome = .ok (some place) then some ((now.content? place).getD [] ++ step.octets)
      else now.content? place) ∧
    (∀ place, now.isDirectory place = true → next.isDirectory place = true) ∧
    ∀ p octets, step = .write p octets →
      (∀ place, outcome = .ok (some place) →
        next.read here p = .ok ((now.content? place).getD [] ++ octets) ∧
          ∀ old, now.read here p = .ok old → now.content? place = some old) ∧
      ∀ names name, now.HasFreeWay (p.start here) p names name →
        (∀ place, next.isDirectory place = true ↔
          now.isDirectory place = true ∨ IsOnWay (p.start here) names place) ∧
        (outcome = .ok (some (p.start here ++ (names ++ [name]))) ↔
          p.endsInSlash = false ∧ now.isDirectory (p.start here ++ (names ++ [name])) = false) := by
  intro now next outcome
  refine ⟨fun place => content?_run here place t steps, content?_perform here now step,
    isDirectory_perform here now step, ?_⟩
  rintro p octets rfl
  exact ⟨read_perform_write here now p octets, perform_write_of_freeWay here now p octets⟩

end Tree

end Crawlability.Files
