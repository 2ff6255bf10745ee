import Crawlability.Log.Line
import Crawlability.Proofs.Text.Lines

/-!
The log file line by line. The records that pass are written in order, each with a line feed behind
it, and their messages as they are. So the file has one line for each of them exactly if no message
holds a line feed; a message that holds one begins a line of its own choice.
-/
namespace Crawlability.Log

/-- What a record shows on its line. -/
def Record.entry (r : Record) : String :=
  "[" ++ r.stamp.file ++ "] [" ++ r.event.level.name ++ "] " ++ r.event.message

theorem Record.line_eq (r : Record) : r.line = r.entry ++ "\n" := rfl

theorem Level.isOneLine_name (level : Level) : Text.IsOneLine level.name := by
  cases level <;> simp only [Level.name] <;> exact Text.isOneLine_ofList _ rfl

theorem Record.isOneLine_entry_iff (r : Record) : Text.IsOneLine r.entry ↔
    Text.IsOneLine r.stamp.file ∧ Text.IsOneLine r.event.message := by
  have hopen : Text.IsOneLine "[" := Text.isOneLine_ofList _ rfl
  have hbetween : Text.IsOneLine "] [" := Text.isOneLine_ofList _ rfl
  have hclose : Text.IsOneLine "] " := Text.isOneLine_ofList _ rfl
  simp only [Record.entry, Text.isOneLine_append, hopen, hbetween, hclose,
    Level.isOneLine_name, true_and, and_true]

namespace Filter

theorem passes_all_iff (level : Level) (e : Event) :
    (Filter.mk [⟨"", level⟩]).passes e = true ↔ e.level.verbosity ≤ level.verbosity := by
  simp [passes, Limit.covers, Level.within]

/-- Own messages are held to the one level and all others to the other. -/
theorem passes_own_iff (level others : Level) (e : Event) :
    (own level others).passes e = true ↔ e.level.verbosity ≤
      if "crawl_signal".toList.isPrefixOf e.target.toList then level.verbosity
      else others.verbosity := by
  unfold passes own Limit.covers
  cases hown : "crawl_signal".toList.isPrefixOf e.target.toList with
  | true => simp only [List.find?_cons, hown, Level.within, decide_eq_true_eq, if_true]
  | false =>
    have hall : "".toList.isPrefixOf e.target.toList = true := by simp
    simp only [List.find?_cons, hown, hall, Level.within, decide_eq_true_eq, if_false,
      Bool.false_eq_true]

/-- What passes the filter of a count of verbosity flags: with each flag one level more, and of the
program's own messages one level more than of others. -/
theorem passes_ofVerbosity_iff (verbose : Nat) (quiet : Bool) (e : Event) :
    (ofVerbosity verbose quiet).passes e = true ↔ e.level.verbosity ≤
      if quiet then 0
      else min 4 (verbose + if "crawl_signal".toList.isPrefixOf e.target.toList then 2 else 1) := by
  unfold ofVerbosity
  cases quiet with
  | true => exact passes_all_iff .error e
  | false =>
    simp only [Bool.false_eq_true, if_false]
    match verbose with
    | 0 =>
      refine (passes_own_iff .info .warn e).trans ?_
      split <;> simp [Level.verbosity]
    | 1 =>
      refine (passes_own_iff .debug .info e).trans ?_
      split <;> simp [Level.verbosity]
    | 2 =>
      refine (passes_own_iff .trace .debug e).trans ?_
      split <;> simp [Level.verbosity]
    | n + 3 =>
      have hall : min 4 (n + 3 +
          if "crawl_signal".toList.isPrefixOf e.target.toList then 2 else 1) = 4 := by
        split <;> omega
      rw [hall]
      exact passes_all_iff .trace e

/-- The lines of the log file are those of the records that pass, in order; nothing stands behind
the last line feed. -/
theorem lines_write (f : Filter) (records : List Record) : Text.lines (f.write records).toList =
    (f.select records).flatMap (fun r => Text.lines r.entry.toList) ++ [[]] := by
  rw [write, String.toList_join]
  induction f.select records with
  | nil => rfl
  | cons r rest ih =>
    rw [List.map_cons, List.flatMap_cons, List.flatMap_cons, Record.line_eq, String.toList_append]
    have hline : r.entry.toList ++ "\n".toList ++ (rest.map Record.line).flatMap String.toList =
        r.entry.toList ++ '\n' :: (rest.map Record.line).flatMap String.toList := by simp
    rw [hline, Text.lines_append_cons, ih, List.append_assoc]

/-- The log file has one line for each record that passes, in order, exactly if no line feed stands
in the stamp or the message of one of them. Every line feed there makes one line more. -/
theorem lines_write_ofVerbosity (verbose : Nat) (quiet : Bool) (records : List Record) :
    let f := ofVerbosity verbose quiet
    let passing := records.filter (f.passes ·.event)
    let log := Text.lines (f.write records).toList
    log = passing.flatMap (fun r => Text.lines r.entry.toList) ++ [[]] ∧
    log.length = passing.length + (passing.flatMap (·.entry.toList)).count '\n' + 1 ∧
    (log = passing.map (·.entry.toList) ++ [[]] ↔
      ∀ r ∈ passing, Text.IsOneLine r.stamp.file ∧ Text.IsOneLine r.event.message) ∧
    (log.length = passing.length + 1 ↔
      ∀ r ∈ passing, Text.IsOneLine r.stamp.file ∧ Text.IsOneLine r.event.message) ∧
    ∀ r, r ∈ passing ↔ r ∈ records ∧ r.event.level.verbosity ≤
      if quiet then 0
      else min 4 (verbose +
        if "crawl_signal".toList.isPrefixOf r.event.target.toList then 2 else 1) := by
  intro f passing log
  have hlog : log = passing.flatMap (fun r => Text.lines r.entry.toList) ++ [[]] :=
    f.lines_write records
  have hentries : log = (passing.map (·.entry.toList)).flatMap Text.lines ++ [[]] := by
    rw [hlog, List.flatMap_map]
  have hlength : log.length = ((passing.map (·.entry.toList)).flatMap Text.lines).length + 1 := by
    rw [hentries, List.length_append, List.length_singleton]
  have honeLine : (∀ s ∈ passing.map (·.entry.toList), '\n' ∉ s) ↔
      ∀ r ∈ passing, Text.IsOneLine r.stamp.file ∧ Text.IsOneLine r.event.message := by
    simp only [List.forall_mem_map, ← Record.isOneLine_entry_iff]
    rfl
  have hcount : log.length = passing.length + 1 ↔
      ∀ r ∈ passing, Text.IsOneLine r.stamp.file ∧ Text.IsOneLine r.event.message := by
    rw [hlength, Nat.add_right_cancel_iff, ← honeLine, ← Text.length_flatMap_lines_eq_iff,
      List.length_map]
  refine ⟨hlog, ?_, ?_, hcount, ?_⟩
  · rw [hlength, Text.length_flatMap_lines, List.length_map, List.flatMap]
  · constructor
    · intro h
      rw [← hcount, h, List.length_append, List.length_map]
      rfl
    · intro h
      rw [hentries, Text.flatMap_lines_eq_self _ (honeLine.mpr h)]
  · intro r
    rw [List.mem_filter, passes_ofVerbosity_iff]

/-- One record whose message goes on with a line that reads like the line of another. -/
theorem lines_write_of_forged_line :
    let r : Record :=
      ⟨⟨"2026-01-02 03:04:05", ""⟩, ⟨"crawl_signal", .info, "a\n[2026-01-02 03:04:06] [ERROR] b"⟩⟩
    let log := Text.lines ((ofVerbosity 0 false).write [r]).toList
    log = ["[2026-01-02 03:04:05] [INFO] a".toList, "[2026-01-02 03:04:06] [ERROR] b".toList, []] ∧
      log ≠ [r.entry.toList, []] := by
  decide +kernel

end Filter

end Crawlability.Log
