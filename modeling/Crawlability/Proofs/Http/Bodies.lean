import Crawlability.IndexNow.Client
import Crawlability.Perplexity.Client
import Crawlability.Proofs.Json.Compact

/-!
The bodies of requests. A payload and a chat request are written as objects of fixed members, and
what is written is read back as what it was, whatever its texts hold. So a body tells which payload
or which request it was made from.
-/
namespace Crawlability

namespace Json

/-- Records that are each read back are read back from an array of them. -/
theorem mapM_trees {α : Type} (read? : Tree → Option α) (spell : α → Json)
    (h : ∀ a, read? (spell a).tree = some a) (list : List α) :
    (trees (list.map spell)).mapM read? = some list := by
  induction list with
  | nil => rfl
  | cons a list ih =>
    rw [List.map_cons, trees, List.mapM_cons, h, ih]
    rfl

end Json

namespace IndexNow.Payload

theorem isReadable_toJson (p : Payload) (depth : Nat) : Json.IsReadable (depth + 2) p.toJson := by
  have hurls : Json.IsReadable (depth + 1) (.array (p.urls.map .string)) :=
    Json.isReadable_array_map .string depth (.string depth) p.urls
  refine .object (depth + 1) _ ?_
  simp only [List.forall_mem_cons]
  exact ⟨.string _ _, .string _ _, .string _ _, hurls, by simp⟩

theorem ofTree?_tree (p : Payload) : ofTree? p.toJson.tree = some p := by
  have hurls : (Json.trees (p.urls.map .string)).mapM Json.Tree.text? = some p.urls :=
    Json.mapM_trees Json.Tree.text? .string (fun _ => rfl) p.urls
  have hrecord : p.toJson.tree.record? ["host", "key", "keyLocation", "urlList"] =
      some [some (.string (some p.host)), some (.string (some p.key)),
        some (.string (some p.keyLocation)), some (.array (Json.trees (p.urls.map .string)))] := rfl
  simp [ofTree?, hrecord, Json.Tree.text?, Json.Tree.items?, hurls]

theorem parse?_wire (p : Payload) : parse? p.wire = some p := by
  rw [parse?, wire, Json.ofText?_compact p.toJson (p.isReadable_toJson 0), Option.bind_some,
    ofTree?_tree]

theorem json_parse?_wire (p : Payload) : Json.parse? p.wire = some p.toJson :=
  Json.parse?_compact p.toJson (p.isReadable_toJson 125)

end IndexNow.Payload

namespace Perplexity

theorem Message.isReadable_toJson (m : Message) (depth : Nat) :
    Json.IsReadable (depth + 1) m.toJson := by
  refine .object depth _ ?_
  simp only [List.forall_mem_cons]
  exact ⟨.string _ _, .string _ _, by simp⟩

theorem Message.ofTree?_tree (m : Message) : ofTree? m.toJson.tree = some m := by
  have hrecord : m.toJson.tree.record? ["role", "content"] =
      some [some (.string (some m.role)), some (.string (some m.content))] := rfl
  simp [ofTree?, hrecord, Json.Tree.text?]

namespace ChatRequest

theorem isReadable_toJson (r : ChatRequest) (depth : Nat) :
    Json.IsReadable (depth + 3) r.toJson := by
  have hmessages : Json.IsReadable (depth + 2) (.array (r.messages.map Message.toJson)) :=
    Json.isReadable_array_map Message.toJson (depth + 1) (·.isReadable_toJson depth) r.messages
  refine .object (depth + 2) _ ?_
  simp only [List.forall_mem_cons]
  exact ⟨.string _ _, hmessages, by simp⟩

theorem ofTree?_tree (r : ChatRequest) : ofTree? r.toJson.tree = some r := by
  have hmessages : (Json.trees (r.messages.map Message.toJson)).mapM Message.ofTree? =
      some r.messages :=
    Json.mapM_trees Message.ofTree? Message.toJson Message.ofTree?_tree r.messages
  have hrecord : r.toJson.tree.record? ["model", "messages"] =
      some [some (.string (some r.model)),
        some (.array (Json.trees (r.messages.map Message.toJson)))] := rfl
  simp [ofTree?, hrecord, Json.Tree.text?, Json.Tree.items?, hmessages]

theorem parse?_wire (r : ChatRequest) : parse? r.wire = some r := by
  rw [parse?, wire, Json.ofText?_compact r.toJson (r.isReadable_toJson 0), Option.bind_some,
    ofTree?_tree]

theorem json_parse?_wire (r : ChatRequest) : Json.parse? r.wire = some r.toJson :=
  Json.parse?_compact r.toJson (r.isReadable_toJson 124)

end ChatRequest

end Perplexity

/-- A body is an object of the members that its kind has, and it is read back as the payload or the
request that it was made from; so no two of them share a body. This is the body that is sent. -/
theorem wire_recovers :
    (∀ p : IndexNow.Payload, IndexNow.Payload.parse? p.wire = some p ∧
      Json.parse? p.wire = some (.object [("host", .string p.host), ("key", .string p.key),
        ("keyLocation", .string p.keyLocation), ("urlList", .array (p.urls.map .string))])) ∧
    (∀ r : Perplexity.ChatRequest, Perplexity.ChatRequest.parse? r.wire = some r ∧
      Json.parse? r.wire = some (.object [("model", .string r.model),
        ("messages", .array (r.messages.map fun m =>
          .object [("role", .string m.role), ("content", .string m.content)]))])) ∧
    (∀ p q : IndexNow.Payload, p.wire = q.wire ↔ p = q) ∧
    (∀ r s : Perplexity.ChatRequest, r.wire = s.wire ↔ r = s) ∧
    (∀ (p : IndexNow.Payload) (r : Perplexity.ChatRequest), p.wire ≠ r.wire) ∧
    (∀ (c : IndexNow.Client) (p : IndexNow.Payload),
      (c.request p).body?.bind IndexNow.Payload.parse? = some p) ∧
    ∀ (c : Perplexity.Client) (url : Url) (key model : String),
      (c.request url key model).body?.bind Perplexity.ChatRequest.parse? =
        some ⟨model, [⟨"user", Perplexity.prompt url⟩]⟩ := by
  refine ⟨?_, ?_, ?_, ?_, ?_, ?_, ?_⟩
  · intro p
    exact ⟨p.parse?_wire, p.json_parse?_wire⟩
  · intro r
    exact ⟨r.parse?_wire, r.json_parse?_wire⟩
  · intro p q
    constructor
    · intro h
      have hparse : some p = some q := by rw [← p.parse?_wire, h, q.parse?_wire]
      exact Option.some.inj hparse
    · exact congrArg IndexNow.Payload.wire
  · intro r s
    constructor
    · intro h
      have hparse : some r = some s := by rw [← r.parse?_wire, h, s.parse?_wire]
      exact Option.some.inj hparse
    · exact congrArg Perplexity.ChatRequest.wire
  · intro p r h
    -- the two objects differ in the name of their first member
    have hparse : some p.toJson = some r.toJson := by
      rw [← p.json_parse?_wire, h, r.json_parse?_wire]
    simp [IndexNow.Payload.toJson, Perplexity.ChatRequest.toJson] at hparse
  · intro c p
    have hbody : (c.request p).body? = some p.wire := rfl
    rw [hbody, Option.bind_some, p.parse?_wire]
  · intro c url key model
    have hbody : (c.request url key model).body? = some (Perplexity.ChatRequest.wire
      ⟨model, [⟨"user", Perplexity.prompt url⟩]⟩) := rfl
    rw [hbody, Option.bind_some, Perplexity.ChatRequest.parse?_wire]

/-- Quotes, backslashes and controls are escaped, and all else stands as it is. -/
example : (⟨"\x01\n", "a\"\\", "é", ["/"]⟩ : IndexNow.Payload).wire =
    "\x7b\"host\":\"\\u0001\\n\",\"key\":\"a\\\"\\\\\"," ++
      "\"keyLocation\":\"é\",\"urlList\":[\"/\"]\x7d" := by
  decide

end Crawlability
