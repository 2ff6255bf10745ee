import Crawlability.CommandLine.Memory
import Crawlability.Proofs.Files.AppendOnly

/-!
The files of the program as a whole. A run of the program reads its configuration, opens the log and
adds lines to it, which is one step that writes, or it ends before that. So the program only adds to
files, however often it is run and whatever comes of it.
-/
namespace Crawlability.CommandLine.Memory

open Files (Step Place)

section Program

variable (n : Network) (environment : Config.Environment) (home? : Option String) (here : Place)
  (stamp : Log.Stamp)

theorem exists_tree_perform (filter : Log.Filter) (echoes : Bool) (session : Session Ending)
    (memory : Memory) (place : Place) (h : memory.log? = some place) :
    ∃ lines, (perform n stamp filter echoes session memory).2.tree =
      memory.tree.append place lines := by
  rw [perform, h]
  exact ⟨_, rfl⟩

/-- Opening the log and performing a session with it is one step, which fails if the log cannot be
opened. -/
theorem exists_step_openLog (path : String) (failure : Files.Error → Ending) (filter : Log.Filter)
    (echoes : Bool) (session : Session Ending) (memory : Memory) :
    ∃ step, ((do
      match ← openLog here path with
      | .error e => return failure e
      | .ok () => perform n stamp filter echoes session : StateM Memory Ending) memory).2.tree =
        (memory.tree.perform here step).1 := by
  simp only [bind, StateT.bind, openLog]
  rcases hopen : memory.tree.openToAppend here (.ofText path) with ⟨u, e | place⟩
  · refine ⟨.write (.ofText path) [], ?_⟩
    rw [Files.Tree.perform, hopen]
    rfl
  · obtain ⟨lines, hlines⟩ := exists_tree_perform n stamp filter echoes session
      { memory with tree := u, log? := some place } place rfl
    refine ⟨.write (.ofText path) lines, ?_⟩
    rw [Files.Tree.perform, hopen]
    exact hlines

/-- A run does no step, if its configuration is at fault, or the one step of its log. -/
theorem exists_steps_runInvocation (i : Invocation) (memory : Memory) :
    ∃ steps : List Step,
      ((host n environment home? here stamp).runInvocation i memory).2.tree =
        memory.tree.run here steps := by
  rw [Host.runInvocation]
  cases i.config? with
  | none =>
    simp only [host, pure_bind]
    cases Config.resolve none environment with
    | error e => exact ⟨[], rfl⟩
    | ok config =>
      obtain ⟨step, hstep⟩ := exists_step_openLog n here stamp _ _ _ _ _ memory
      exact ⟨[step], hstep⟩
  | some path =>
    simp only [host, map_eq_pure_bind, bind_assoc, pure_bind]
    simp only [bind, StateT.bind]
    cases Config.resolve (some (memory.tree.read here (.ofText path))) environment with
    | error e => exact ⟨[], rfl⟩
    | ok config =>
      obtain ⟨step, hstep⟩ := exists_step_openLog n here stamp _ _ _ _ _ memory
      exact ⟨[step], hstep⟩

theorem exists_steps_run (args : List String) (memory : Memory) :
    ∃ steps : List Step,
      ((host n environment home? here stamp).run args memory).2.tree =
        memory.tree.run here steps := by
  rw [Host.run]
  cases Invocation.parse args with
  | error stop => exact ⟨[], rfl⟩
  | ok i => exact exists_steps_runInvocation n environment home? here stamp i memory

end Program

/-- One run of the program: what it is called with, where, and what it finds in the network. -/
structure Call where
  network : Network
  environment : Config.Environment
  home? : Option String
  here : Place
  stamp : Log.Stamp
  args : List String

/-- What the calls leave of a tree, one after the other. -/
def afterCalls (calls : List Call) (t : Files.Tree) : Files.Tree :=
  calls.foldl (fun t call =>
    ((host call.network call.environment call.home? call.here call.stamp).run call.args
      { tree := t }).2.tree) t

/-- However often the program is called, files are only added to. -/
theorem exists_added_afterCalls (calls : List Call) (t : Files.Tree) (place : Place)
    (octets : List UInt8) (h : t.content? place = some octets) :
    ∃ added, (afterCalls calls t).content? place = some (octets ++ added) := by
  induction calls generalizing t octets with
  | nil => exact ⟨[], by rw [List.append_nil]; exact h⟩
  | cons call rest ih =>
    obtain ⟨steps, hsteps⟩ := exists_steps_run call.network call.environment call.home? call.here
      call.stamp call.args { tree := t }
    obtain ⟨first, hfirst⟩ : ∃ first,
        (t.run call.here steps).content? place = some (octets ++ first) := by
      rw [Files.Tree.content?_run, h]
      split
      · exact ⟨[], by rw [List.append_nil]⟩
      · exact ⟨_, rfl⟩
    obtain ⟨added, hadded⟩ := ih _ _ (hsteps ▸ hfirst)
    exact ⟨first ++ added, by rw [← List.append_assoc]; exact hadded⟩

end Crawlability.CommandLine.Memory
