import Crawlability.CommandLine.Run
import Crawlability.Proofs.Json.Compact
import Crawlability.Proofs.Json.Members
import Crawlability.Proofs.Tool.Calls

/-!
Commands as calls. Three of the commands are made for one tool each. What the command line gives
them is written as an object, and the tool reads the same from it again. So such a command does what
a call does whose arguments are the text of this object, and the program ends as the tool does. The
general options come before the command and are read without it.
-/
namespace Crawlability

namespace CommandLine

/-! The members that options give. -/

theorem lookup?_optionalMembers_nil (name : String) :
    Json.lookup? (optionalMembers []) name = none := rfl

theorem lookup?_optionalMembers_cons (option : String × Option String)
    (options : List (String × Option String)) (name : String) :
    Json.lookup? (optionalMembers (option :: options)) name =
      (Json.lookup? (optionalMembers options) name).or
        (if option.1 = name then option.2.map .string else none) := by
  obtain ⟨other, text?⟩ := option
  cases text? with
  | none => simp [optionalMembers]
  | some text =>
    have hcons : optionalMembers ((other, some text) :: options) =
        (other, .string text) :: optionalMembers options := rfl
    rw [hcons, Json.lookup?_cons, Option.map_some]

theorem isReadable_of_mem_optionalMembers (options : List (String × Option String))
    (member : String × Json) (h : member ∈ optionalMembers options) (depth : Nat) :
    Json.IsReadable depth member.2 := by
  obtain ⟨⟨name, text?⟩, -, hmember⟩ := List.mem_filterMap.mp h
  obtain ⟨text, -, rfl⟩ := Option.map_eq_some_iff.mp hmember
  exact .string depth text

end CommandLine

namespace Tool

open CommandLine

/-- The members of an object that asks the tool for this. -/
def arguments : (t : Tool) → t.Request → List (String × Json)
  | submitUrls, (s : IndexNow.Submission) =>
    ("urls", .array (s.urls.map .string)) :: optionalMembers
      [("host", s.host?), ("apiKey", s.apiKey?), ("keyLocation", s.keyLocation?)]
  | checkPerplexity, (k : Perplexity.Check) =>
    ("url", .string k.url) :: optionalMembers [("apiKey", k.apiKey?), ("model", k.model?)]
  | auditPage, (i : Audit.Inquiry) =>
    ("url", .string i.url) ::
      (i.checkRobotsTxt?.map fun check => ("checkRobotsTxt", .bool check)).toList

theorem spells_arguments (t : Tool) (request : t.Request) :
    t.Spells (Json.lookup? (t.arguments request)) request := by
  cases t with
  | submitUrls =>
    obtain ⟨urls, host?, key?, location?⟩ := request
    simp only [Spells, arguments, Json.lookup?_cons, lookup?_optionalMembers_cons,
      lookup?_optionalMembers_nil, String.reduceEq, if_true, if_false, Option.none_or,
      Option.or_none]
    exact ⟨.many urls, Json.gives_map _ host?, Json.gives_map _ key?, Json.gives_map _ location?⟩
  | checkPerplexity =>
    obtain ⟨url, key?, model?⟩ := request
    simp only [Spells, arguments, Json.lookup?_cons, lookup?_optionalMembers_cons,
      lookup?_optionalMembers_nil, String.reduceEq, if_true, if_false, Option.none_or,
      Option.or_none]
    exact ⟨trivial, Json.gives_map _ key?, Json.gives_map _ model?⟩
  | auditPage =>
    obtain ⟨url, check?⟩ := request
    cases check? with
    | none => exact ⟨rfl, .missing⟩
    | some check => exact ⟨rfl, .value check⟩

theorem validate_arguments (t : Tool) (request : t.Request) :
    t.spec.validate (.object (t.arguments request)) = .ok () :=
  (t.validate_eq_ok_iff_spells _).mpr ⟨_, rfl, request, t.spells_arguments request⟩

theorem request?_arguments (t : Tool) (request : t.Request) :
    t.request? (.object (t.arguments request)) = some request :=
  (t.request?_object_eq_some_iff _ request).mpr (t.spells_arguments request)

theorem isReadable_arguments (t : Tool) (request : t.Request) (depth : Nat) :
    Json.IsReadable (depth + 2) (.object (t.arguments request)) := by
  refine .object (depth + 1) _ ?_
  cases t with
  | submitUrls =>
    obtain ⟨urls, host?, key?, location?⟩ := request
    have hurls : Json.IsReadable (depth + 1) (.array (urls.map .string)) :=
      Json.isReadable_array_map .string depth (.string depth) urls
    exact List.forall_mem_cons.mpr
      ⟨hurls, fun member h => isReadable_of_mem_optionalMembers _ member h _⟩
  | checkPerplexity =>
    exact List.forall_mem_cons.mpr
      ⟨.string _ _, fun member h => isReadable_of_mem_optionalMembers _ member h _⟩
  | auditPage =>
    refine List.forall_mem_cons.mpr ⟨.string _ _, ?_⟩
    intro member hmember
    obtain ⟨check, -, rfl⟩ := Option.map_eq_some_iff.mp (Option.mem_toList.mp hmember)
    exact .bool _ check

theorem parse?_arguments (t : Tool) (request : t.Request) :
    Json.parse? (Json.object (t.arguments request)).compact =
      some (.object (t.arguments request)) :=
  Json.parse?_compact _ (t.isReadable_arguments request 125)

end Tool

namespace CommandLine

/-! Reading the command line. -/

theorem Look.of_eq_plain (arg : String) (c : Char) (s : List Char) (h : arg.toList = c :: s)
    (hc : c ≠ '-') : Look.of arg = .plain := by
  rw [Look.of, h]
  split <;> simp_all

/-- A text that begins with a dash spells a number if anything. -/
theorem look_of_parse? (text : String) (members : List (String × Json))
    (h : Json.parse? text = some (.object members)) : Look.of text = .plain := by
  cases htext : text.toList with
  | nil => simp [Look.of, htext]
  | cons c s =>
    by_cases hc : c = '-'
    · subst hc
      rw [Json.parse?, Json.Tree.ofText?, htext, List.map_cons, Json.Tree.ofInput?,
        Json.read?_number _ '-' _ (Or.inr rfl)] at h
      cases hnumber : Json.Tree.readNumber? (some '-' :: s.map some) with
      | none => simp [hnumber] at h
      | some found =>
        obtain ⟨number, rest⟩ := found
        simp only [hnumber, Option.map_some] at h
        split at h
        · simp [Json.Tree.value?] at h
        · cases h
    · exact Look.of_eq_plain text c s htext hc

theorem look_name (t : Tool) : Look.of t.name = .plain := by
  cases t <;> decide

namespace Grammar

/-- Arguments are read up to a command, and it makes no difference which command that is. -/
def StopsAtCommand (g : Grammar) (items : Items) (args : List String) (found : Items)
    (command : String) (rest : List String) : Prop :=
  ∃ options, args = options ++ command :: rest ∧
    ∀ (other : String) (behind : List String), Look.of other = .plain →
      g.readFrom items (options ++ other :: behind) = .ok (found, other :: behind)

variable {g : Grammar} {items next found : Items} {args : List String} {command : String}
  {rest : List String}

/-- This is so with more in front that is read on its own. -/
theorem StopsAtCommand.prepend (front : List String)
    (hfront : ∀ arg behind,
      g.readFrom items (front ++ arg :: behind) = g.readFrom next (arg :: behind))
    (h : g.StopsAtCommand next args found command rest) :
    g.StopsAtCommand items (front ++ args) found command rest := by
  obtain ⟨options, hargs, hread⟩ := h
  refine ⟨front ++ options, by rw [hargs, List.append_assoc], ?_⟩
  intro other behind hother
  have hnext := hread other behind hother
  rw [List.append_assoc]
  cases options with
  | nil =>
    rw [List.nil_append] at hnext ⊢
    rw [hfront, hnext]
  | cons option options =>
    rw [List.cons_append] at hnext ⊢
    rw [hfront, hnext]

theorem stopsAtCommand_of_readFrom (h : g.readFrom items args = .ok (found, command :: rest)) :
    g.StopsAtCommand items args found command rest := by
  fun_induction g.readFrom items args with
  | case2 items arg tail hlook hends =>
    cases h
    refine ⟨[], rfl, ?_⟩
    intro other behind hother
    simp only [List.nil_append, readFrom, hother, hends, if_true]
  | case4 items arg tail hlook hends next hadd ih =>
    refine (ih h).prepend [arg] ?_
    intro other behind
    rw [List.singleton_append, readFrom]
    simp only [hlook, hends, hadd, Bool.false_eq_true, if_false]
  | case5 items arg tail hlook =>
    -- behind two dashes there is no command
    cases hadd : g.addPositionals items tail with
    | error stop => simp [hadd, Except.map] at h
    | ok items => simp [hadd, Except.map] at h
  | case7 items arg tail list hlook next hletters ih =>
    refine (ih h).prepend [arg] ?_
    intro other behind
    rw [List.singleton_append, readFrom]
    simp only [hlook, hletters]
  | case12 items arg name s value tail hfind htakes next hadd hlook hhelp hversion ih =>
    refine (ih h).prepend [arg] ?_
    intro other behind
    rw [List.singleton_append, readFrom, hlook]
    dsimp only
    rw [if_neg hhelp, if_neg hversion]
    simp only [hfind, htakes, hadd, if_true]
  | case17 items arg name s value tail hfind htakes hvalue next hadd hlook hhelp hversion ih =>
    refine (ih h).prepend [arg, value] ?_
    intro other behind
    rw [List.cons_append, List.singleton_append, readFrom, hlook]
    dsimp only
    rw [if_neg hhelp, if_neg hversion]
    simp only [hfind, htakes, hvalue, hadd, if_true]
  | case20 items arg name s value tail hfind htakes next hadd hlook hhelp hversion ih =>
    refine (ih h).prepend [arg] ?_
    intro other behind
    rw [List.singleton_append, readFrom, hlook]
    dsimp only
    rw [if_neg hhelp, if_neg hversion]
    simp only [hfind, htakes, hadd, if_false]
  | _ => cases h

end Grammar

namespace Invocation

theorem ofCommand_call (name text : String) (hname : Look.of name = .plain)
    (htext : Look.of text = .plain) :
    ofCommand "call" [name, text] = .ok (.call name (some text)) := by
  simp [ofCommand, ofCall, Grammar.read, Grammar.readFrom, hname, htext, Grammar.addPositional,
    Items.positionals, Except.map]

/-- The options before a command stay in force if the command is replaced by a call. -/
theorem exists_parse_call (args : List String) (i : Invocation) (h : parse args = .ok i) :
    ∃ options command rest, args = options ++ command :: rest ∧
      ∀ name text, Look.of name = .plain → Look.of text = .plain →
        parse (options ++ ["call", name, text]) =
          .ok { i with command := .call name (some text) } := by
  rw [parse, Grammar.read] at h
  cases hread : general.readFrom [] args with
  | error stop => simp [hread, Except.map] at h
  | ok found =>
    obtain ⟨items, tail⟩ := found
    cases tail with
    | nil => simp [hread, Except.map] at h
    | cons command rest =>
      obtain ⟨options, hargs, hother⟩ := Grammar.stopsAtCommand_of_readFrom hread
      refine ⟨options, command, rest, hargs, ?_⟩
      intro name text hname htext
      have hcall := hother "call" [name, text] (by decide)
      rw [parse, Grammar.read, hcall]
      simp only [hread, Except.map, ofCommand_call name text hname htext] at h ⊢
      cases hcommand : ofCommand command rest with
      | error stop => simp [hcommand] at h
      | ok c =>
        simp only [hcommand] at h
        split at h
        · cases h
        · rename_i hquiet
          cases h
          rw [if_neg hquiet]

end Invocation

/-! The session of a command. -/

/-- Every command but the one that lists the tools and the general call asks one tool for what the
command line gives. The robots file is checked unless this is declined. -/
inductive Command.Asks : Command → (t : Tool) → t.Request → Prop
  | audit (url : String) (skipRobots : Bool) :
      Asks (.audit url skipRobots) .auditPage (⟨url, some !skipRobots⟩ : Audit.Inquiry)
  | submit (s : IndexNow.Submission) : Asks (.submit s) .submitUrls s
  | perplexity (k : Perplexity.Check) : Asks (.perplexity k) .checkPerplexity k

theorem Command.Asks.plan_eq {c : Command} {t : Tool} {request : t.Request}
    (h : c.Asks t request) : c.plan = .callTool t.name (.object (t.arguments request)) := by
  cases h with
  | audit url skipRobots => rfl
  | submit s => rfl
  | perplexity k => rfl

theorem Command.plan_call (name text : String) (args : Json) (h : Json.parse? text = some args) :
    (call name (some text)).plan = .callTool name args := by
  rw [plan, h]

/-- Of the arguments only the record counts that their members spell. -/
theorem call_eq_of_spells (r : Tool.Registry) (t : Tool) (request : t.Request)
    (members others : List (String × Json)) (h : t.Spells (Json.lookup? members) request)
    (hothers : t.Spells (Json.lookup? others) request) :
    r.call t.name (some (.object members)) = r.call t.name (some (.object others)) := by
  have hfind : Tool.find? t.name = some t := (Tool.find?_eq_some_iff t.name t).mpr rfl
  have hvalid : ∀ list, t.Spells (Json.lookup? list) request →
      t.spec.validate (.object list) = .ok () ∧
        r.perform t (.object list) = r.operate t request := by
    intro list hlist
    have hrequest := (t.request?_object_eq_some_iff list request).mpr hlist
    exact ⟨(t.validate_eq_ok_iff_spells _).mpr ⟨list, rfl, request, hlist⟩,
      Tool.perform_of_request? r t _ request hrequest⟩
  obtain ⟨hcheck, hperform⟩ := hvalid members h
  obtain ⟨hcheck', hperform'⟩ := hvalid others hothers
  rw [Tool.Registry.call, Tool.Registry.call, hfind]
  simp only [Option.getD_some, hcheck, hcheck', hperform, hperform']

theorem Command.session_eq_of_calls_eq (c d : Command) (name : String) (args others : Json)
    (hc : c.plan = .callTool name args) (hd : d.plan = .callTool name others)
    (h : ∀ r : Tool.Registry, r.call name (some args) = r.call name (some others))
    (config : Config) : c.session config = d.session config := by
  rw [session, session, hc, hd]
  simp only [h]

/-- The call has the same session, if its text spells the same record. -/
theorem Command.Asks.session_eq {c : Command} {t : Tool} {request : t.Request}
    (h : c.Asks t request) (text : String) (members : List (String × Json))
    (htext : Json.parse? text = some (.object members))
    (hspells : t.Spells (Json.lookup? members) request) (config : Config) :
    (Command.call t.name (some text)).session config = c.session config := by
  refine session_eq_of_calls_eq _ c t.name _ _ (plan_call t.name text _ htext) h.plan_eq ?_ config
  intro r
  exact call_eq_of_spells r t request members _ hspells (t.spells_arguments request)

theorem Host.runInvocation_congr {m : Type → Type} [Monad m] (host : Host m) (i : Invocation)
    (c d : Command) (h : c.session = d.session) :
    host.runInvocation { i with command := c } = host.runInvocation { i with command := d } := by
  simp only [runInvocation, h]

/-- What every command reports first. -/
def startEvent : Log.Event := ⟨"crawl_signal", .info, "Starting Crawl Signal 0.1.0"⟩

section

variable (c : Command) (n : Network) (earlier : List Http.Request) (config : Config)

theorem Command.run_session_of_error (name : String) (args : Json)
    (hplan : c.plan = .callTool name args) (e : Error)
    (h : Tool.Registry.ofConfig config = .error e) :
    (c.session config).run n earlier =
      (.failure e.message [], [.reported startEvent]) := by
  rw [session, hplan]
  simp only [h]
  rfl

theorem Command.run_session (name : String) (args : Json) (hplan : c.plan = .callTool name args)
    (r : Tool.Registry) (h : Tool.Registry.ofConfig config = .ok r) :
    (c.session config).run n earlier =
      let calling := (r.call name (some args)).run n earlier
      (.ofResult calling.1, .reported startEvent :: calling.2) := by
  have hsession : c.session config = Session.report startEvent
      ((r.call name (some args)).bind fun result => .done (Ending.ofResult result)) := by
    rw [session, hplan]
    simp only [h]
    rfl
  rw [hsession, Session.run, Session.run_bind]
  simp only [Session.run, List.append_nil]

end

theorem Ending.status_ofResult (r : Tool.Result) :
    (ofResult r).status = if r.isError = true then 1 else 0 := by
  rw [ofResult]
  split <;> rfl

end CommandLine

end Crawlability
