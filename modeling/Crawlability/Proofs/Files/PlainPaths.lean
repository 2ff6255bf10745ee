import Crawlability.Proofs.Files.Growth

/-!
Paths made of plain names, single dots between them apart. If no file stands in the way, the
directories that such a path goes through are there after it was opened: those that were missing
have been made, and no others.
-/
namespace Crawlability.Files.Tree

/-- Some directory on the way from the start: a part of the names from the first one on. -/
def IsOnWay (start : Place) (names : List String) (place : Place) : Prop :=
  ∃ ns, ns <+: names ∧ ns ≠ [] ∧ place = start ++ ns

theorem isOnWay_concat_iff (start : Place) (names : List String) (name : String) (place : Place) :
    IsOnWay start (names ++ [name]) place ↔
      IsOnWay start names place ∨ place = start ++ (names ++ [name]) := by
  constructor
  · rintro ⟨ns, hns, hne, rfl⟩
    rcases List.prefix_concat_iff.mp hns with rfl | hns
    · exact Or.inr rfl
    · exact Or.inl ⟨ns, hns, hne, rfl⟩
  · rintro (⟨ns, hns, hne, rfl⟩ | rfl)
    · exact ⟨ns, hns.trans (List.prefix_append _ _), hne, rfl⟩
    · exact ⟨names ++ [name], List.prefix_rfl, List.concat_ne_nil _ _, rfl⟩

theorem not_isOnWay_nil (start place : Place) : ¬ IsOnWay start [] place := by
  rintro ⟨ns, hns, hne, -⟩
  exact hne (List.prefix_nil.mp hns)

/-- The way stops short of the name behind it. -/
theorem not_isOnWay_concat (start : Place) (names : List String) (name : String) :
    ¬ IsOnWay start names (start ++ (names ++ [name])) := by
  rintro ⟨ns, hns, -, heq⟩
  have hlength := hns.length_le
  rw [← List.append_cancel_left heq, List.length_append, List.length_singleton] at hlength
  omega

theorem walk_concat (t : Tree) (start : Place) (names : List String) (name : String) :
    t.walk start (names ++ [name]) =
      match t.walk start names with
      | .error e => .error e
      | .ok place => t.enter place name := by
  induction names generalizing start with
  | nil =>
    simp only [List.nil_append, walk]
    cases t.enter start name with
    | error e => rfl
    | ok place => rfl
  | cons first rest ih =>
    rw [List.cons_append, walk, walk]
    cases t.enter start first with
    | error e => rfl
    | ok place => exact ih place

/-- If no file stands in the way, a walk along plain names meets directories only, or breaks off
where one is missing. -/
theorem walk_of_plain (t : Tree) (start : Place) (names : List String)
    (hplain : ∀ name ∈ names, IsPlainName name)
    (hfree : ∀ place, IsOnWay start names place → t.isFile place = false) :
    (t.walk start names = .ok (start ++ names) ∧
      ∀ place, IsOnWay start names place → t.isDirectory place = true) ∨
    t.walk start names = .error .notFound := by
  induction names using List.reverseRecOn with
  | nil =>
    left
    refine ⟨by rw [walk, List.append_nil], ?_⟩
    intro place hplace
    exact absurd hplace (not_isOnWay_nil start place)
  | append_singleton names name ih =>
    have hname : IsPlainName name := hplain name (by simp)
    have hbefore := ih (fun n hn => hplain n (List.mem_append_left _ hn)) fun place hplace =>
      hfree place ((isOnWay_concat_iff start names name place).mpr (Or.inl hplace))
    have hfile := hfree _ ((isOnWay_concat_iff start names name _).mpr (Or.inr rfl))
    rw [walk_concat]
    rcases hbefore with ⟨hwalk, hway⟩ | hwalk
    · simp only [hwalk, t.enter_of_isPlainName _ name hname, List.append_assoc]
      by_cases hdirectory : t.isDirectory (start ++ (names ++ [name])) = true
      · left
        refine ⟨if_pos hdirectory, ?_⟩
        intro place hplace
        rcases (isOnWay_concat_iff start names name place).mp hplace with hplace | rfl
        · exact hway place hplace
        · exact hdirectory
      · right
        rw [if_neg hdirectory, if_neg (by simp [hfile])]
    · right
      simp only [hwalk]

theorem walk_of_directories (t : Tree) (start : Place) (names : List String)
    (hplain : ∀ name ∈ names, IsPlainName name)
    (hway : ∀ place, IsOnWay start names place → t.isDirectory place = true) :
    t.walk start names = .ok (start ++ names) := by
  induction names using List.reverseRecOn with
  | nil => rw [walk, List.append_nil]
  | append_singleton names name ih =>
    have hname : IsPlainName name := hplain name (by simp)
    have hbefore := ih (fun n hn => hplain n (List.mem_append_left _ hn)) fun place hplace =>
      hway place ((isOnWay_concat_iff start names name place).mpr (Or.inl hplace))
    have hlast := hway _ ((isOnWay_concat_iff start names name _).mpr (Or.inr rfl))
    simp only [walk_concat, hbefore, t.enter_of_isPlainName _ name hname, List.append_assoc, hlast,
      if_true]

theorem any_holdsNul_of_plain (names : List String) (hplain : ∀ name ∈ names, IsPlainName name) :
    names.any holdsNul = false := by
  rw [List.any_eq_false]
  intro name hname
  simp [(hplain name hname).noNul]

theorem makeDirectory_concat (t : Tree) (start : Place) (names : List String) (name : String)
    (hplain : ∀ n ∈ names ++ [name], IsPlainName n) :
    t.makeDirectory start (names ++ [name]) =
      match t.walk start names with
      | .error e => .error e
      | .ok place =>
        if t.isDirectory (place ++ [name]) || t.isFile (place ++ [name]) then .error .alreadyExists
        else .ok (t.withDirectory (place ++ [name])) := by
  have hname : IsPlainName name := hplain name (by simp)
  rw [makeDirectory, any_holdsNul_of_plain _ hplain]
  simp only [List.getLast?_concat, List.dropLast_concat, hname.ne_dot, hname.ne_dots, hname.fits]
  rfl

/-- The directories on the way have been made where they were missing, and that is all. -/
structure MadeWay (t u : Tree) (start : Place) (names : List String) : Prop where
  files_eq : u.files = t.files
  isDirectory_iff : ∀ place, u.isDirectory place = true ↔
    t.isDirectory place = true ∨ IsOnWay start names place

/-- Where the way leads up to a name, the directory of this name is made or was there. -/
theorem exists_orPresent_of_walk (t : Tree) (start : Place) (names : List String) (name : String)
    (hplain : ∀ n ∈ names ++ [name], IsPlainName n)
    (hwalk : t.walk start names = .ok (start ++ names))
    (hway : ∀ place, IsOnWay start names place → t.isDirectory place = true)
    (hfree : t.isFile (start ++ (names ++ [name])) = false) :
    ∃ u, t.orPresent start (names ++ [name]) (t.makeDirectory start (names ++ [name])) =
      (u, .ok ()) ∧ t.MadeWay u start (names ++ [name]) := by
  have hname : IsPlainName name := hplain name (by simp)
  rw [makeDirectory_concat t start names name hplain]
  simp only [hwalk, List.append_assoc, hfree, Bool.or_false]
  by_cases hdirectory : t.isDirectory (start ++ (names ++ [name])) = true
  · have hthere : t.walk start (names ++ [name]) = .ok (start ++ (names ++ [name])) := by
      simp only [walk_concat, hwalk, t.enter_of_isPlainName _ name hname, List.append_assoc,
        hdirectory, if_true]
    refine ⟨t, by simp [orPresent, hdirectory, hthere], rfl, ?_⟩
    intro place
    rw [isOnWay_concat_iff, or_iff_left_of_imp]
    rintro (hplace | rfl)
    · exact hway place hplace
    · exact hdirectory
  · refine ⟨t.withDirectory (start ++ (names ++ [name])), by simp [orPresent, hdirectory], rfl, ?_⟩
    intro place
    rw [isDirectory_withDirectory_iff, isOnWay_concat_iff, ← or_assoc,
      or_iff_left_of_imp (hway place)]

theorem exists_makeUpwards_of_plain (t : Tree) (start : Place) (above : List String)
    (hplain : ∀ name ∈ above, IsPlainName name)
    (hfree : ∀ place, IsOnWay start above.reverse place → t.isFile place = false) :
    ∃ u, t.makeUpwards start above = (u, .ok ()) ∧ t.MadeWay u start above.reverse := by
  induction above with
  | nil =>
    refine ⟨t, rfl, rfl, ?_⟩
    intro place
    exact (or_iff_left (not_isOnWay_nil start place)).symm
  | cons name above ih =>
    have hsteps : (name :: above).reverse = above.reverse ++ [name] := List.reverse_cons
    have hnames : ∀ n ∈ above.reverse ++ [name], IsPlainName n := by
      intro n hn
      exact hplain n (List.mem_reverse.mp (hsteps ▸ hn))
    have hbefore : ∀ n ∈ above.reverse, IsPlainName n :=
      fun n hn => hnames n (List.mem_append_left _ hn)
    rw [hsteps] at hfree ⊢
    have hfile := hfree _ ((isOnWay_concat_iff start above.reverse name _).mpr (Or.inr rfl))
    have hfreeBefore : ∀ place, IsOnWay start above.reverse place → t.isFile place = false :=
      fun place hplace =>
        hfree place ((isOnWay_concat_iff start above.reverse name place).mpr (Or.inl hplace))
    rcases t.walk_of_plain start above.reverse hbefore hfreeBefore with ⟨hwalk, hway⟩ | hwalk
    · -- Everything above is there, and the first attempt settles it.
      obtain ⟨u, hu, hmade⟩ := t.exists_orPresent_of_walk start _ name hnames hwalk hway hfile
      refine ⟨u, ?_, hmade⟩
      rw [← hu, makeUpwards]
      simp only [hsteps]
      split
      · rename_i hmissing
        rw [makeDirectory_concat t start _ name hnames, hwalk] at hmissing
        simp only at hmissing
        split at hmissing <;> cases hmissing
      · rfl
    · -- Something above is missing. It is made first, and then the directory is tried again.
      obtain ⟨u, hu, hmade⟩ := ih (fun n hn => hbefore n (List.mem_reverse.mpr hn)) hfreeBefore
      have hwayU : ∀ place, IsOnWay start above.reverse place → u.isDirectory place = true :=
        fun place hplace => (hmade.isDirectory_iff place).mpr (Or.inr hplace)
      have hfileU : u.isFile (start ++ (above.reverse ++ [name])) = false := by
        rwa [isFile, content?, hmade.files_eq]
      obtain ⟨v, hv, hmadeV⟩ := u.exists_orPresent_of_walk start _ name hnames
        (u.walk_of_directories start _ hbefore hwayU) hwayU hfileU
      have hmissing : t.makeDirectory start (above.reverse ++ [name]) = .error .notFound := by
        rw [makeDirectory_concat t start _ name hnames, hwalk]
      refine ⟨v, ?_, hmadeV.files_eq.trans hmade.files_eq, ?_⟩
      · rw [makeUpwards]
        simp only [hsteps, hmissing, hu]
        exact hv
      · intro place
        rw [hmadeV.isDirectory_iff, hmade.isDirectory_iff, isOnWay_concat_iff]
        tauto

/-- The path goes along plain names to the last one, and no directory on its way is a file. -/
structure HasFreeWay (t : Tree) (start : Place) (p : Path) (names : List String) (name : String) :
    Prop where
  steps_eq : p.steps.filter (· != ".") = names ++ [name]
  getLast? : p.steps.getLast? = some name
  isPlainName : ∀ n ∈ names ++ [name], IsPlainName n
  noFile : ∀ place, IsOnWay start names place → t.isFile place = false

theorem walk_filter_dots (t : Tree) (start : Place) (steps : List String) :
    t.walk start (steps.filter (· != ".")) = t.walk start steps := by
  induction steps generalizing start with
  | nil => rfl
  | cons step rest ih =>
    by_cases hdot : step = "."
    · have hstay : t.enter start step = .ok start := by rw [enter, if_pos hdot]
      rw [List.filter_cons_of_neg (by simp [hdot]), ih, walk, hstay]
    · rw [List.filter_cons_of_pos (by simp [hdot]), walk, walk]
      cases t.enter start step with
      | error e => rfl
      | ok place => exact ih place

section Opening

variable (t u : Tree) (here : Place) (p : Path) (names : List String) (name : String)
  (h : t.HasFreeWay (p.start here) p names name)

include h

theorem HasFreeWay.filter_dropLast : p.steps.dropLast.filter (· != ".") = names := by
  have hname : IsPlainName name := h.isPlainName name (by simp)
  have hsplit : p.steps.dropLast ++ [name] = p.steps := List.dropLast_append_getLast? name h.getLast?
  have hsteps := h.steps_eq
  rw [← hsplit, List.filter_append, List.filter_cons_of_pos (by simp [hname.ne_dot]),
    List.filter_nil] at hsteps
  exact List.append_cancel_right hsteps

theorem HasFreeWay.noNul : p.steps.any holdsNul = false := by
  rw [List.any_eq_false]
  intro step hstep
  by_cases hdot : step = "."
  · rw [hdot]
    decide
  · have hmem : step ∈ p.steps.filter (· != ".") := List.mem_filter.mpr ⟨hstep, by simp [hdot]⟩
    rw [h.steps_eq] at hmem
    simp [(h.isPlainName step hmem).noNul]

/-- With its way made, a path leads to a file exactly if there is no directory in its place and it
does not ask for one. -/
theorem HasFreeWay.locate_eq_ok_iff (hmade : t.MadeWay u (p.start here) names) (place : Place) :
    u.locate (p.start here) p = .ok place ↔ place = p.start here ++ (names ++ [name]) ∧
      p.endsInSlash = false ∧ t.isDirectory (p.start here ++ (names ++ [name])) = false := by
  have hwalk : u.walk (p.start here) p.steps.dropLast = .ok (p.start here ++ names) := by
    rw [← walk_filter_dots, h.filter_dropLast]
    exact u.walk_of_directories _ names (fun n hn => h.isPlainName n (List.mem_append_left _ hn))
      fun place hplace => (hmade.isDirectory_iff place).mpr (Or.inr hplace)
  have hsame : u.isDirectory (p.start here ++ (names ++ [name])) =
      t.isDirectory (p.start here ++ (names ++ [name])) := by
    rw [Bool.eq_iff_iff, hmade.isDirectory_iff,
      or_iff_left (not_isOnWay_concat (p.start here) names name)]
  constructor
  · intro hlocate
    obtain ⟨parent, other, hleads, rfl⟩ := u.exists_of_locate (p.start here) place p hlocate
    obtain rfl : other = name := Option.some.inj (hleads.getLast?.symm.trans h.getLast?)
    obtain rfl : parent = p.start here ++ names := Except.ok.inj (hleads.walk.symm.trans hwalk)
    refine ⟨List.append_assoc .., hleads.endsInSlash, ?_⟩
    rw [← hsame, ← List.append_assoc, hleads.notDirectory]
  · rintro ⟨rfl, hslash, hfree⟩
    have hleads : u.Leads (p.start here) p (p.start here ++ names) name := {
      noNul := h.noNul
      getLast? := h.getLast?
      walk := hwalk
      isPlainName := h.isPlainName name (by simp)
      notDirectory := by rw [List.append_assoc, hsame, hfree]
      endsInSlash := hslash
    }
    rw [hleads.locate_eq, List.append_assoc]

/-- On a free way the missing directories are made before the file is opened, whatever comes of
that. -/
theorem HasFreeWay.exists_openToAppend :
    ∃ u, t.MadeWay u (p.start here) names ∧
      t.openToAppend here p =
        match u.locate (p.start here) p with
        | .error e => (u, .error e)
        | .ok place => (u.append place [], .ok place) := by
  obtain ⟨u, hu, hmade⟩ := t.exists_makeUpwards_of_plain (p.start here) names.reverse
    (fun n hn => h.isPlainName n (List.mem_append_left _ (List.mem_reverse.mp hn)))
    (by rw [List.reverse_reverse]; exact h.noFile)
  rw [List.reverse_reverse] at hmade
  have hparents : t.makeUpwards (p.start here) p.parentSteps.reverse = (u, .ok ()) := by
    rw [Path.parentSteps, h.steps_eq, List.dropLast_concat]
    exact hu
  refine ⟨u, hmade, ?_⟩
  cases hplace : u.locate (p.start here) p with
  | error e => simp only [openToAppend, hparents, hplace]
  | ok place => simp only [openToAppend, hparents, hplace]

end Opening

end Crawlability.Files.Tree
